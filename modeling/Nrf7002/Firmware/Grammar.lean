import Mathlib.Data.List.Perm.Subperm
import Nrf7002.Firmware.Bundle

/-! # The grammar of bundles

A bundle is a fixed header and four images, one after the other, whose kinds are all four
in any order.  The parser accepts these byte strings and no others, and looks an image up
by a walk of its own that ends at the same bytes. -/

set_option autoImplicit false

namespace Nrf7002
open Foundation

/-- An image behind the number of its kind and its length. -/
def FirmwareImage.encode (image : FirmwareImage) : Bytes :=
  le32 image.kind.number ++ (le32 (UInt32.ofNat image.data.length) ++ image.data)

def encodeImages (images : List FirmwareImage) : Bytes := images.flatMap FirmwareImage.encode

@[simp] theorem FirmwareImage.length_encode (image : FirmwareImage) :
    image.encode.length = imageHeaderLen + image.data.length := by
  simp only [FirmwareImage.encode, List.length_append, length_le32, imageHeaderLen]
  omega

@[simp] theorem encodeImages_nil : encodeImages [] = [] := rfl

@[simp] theorem encodeImages_cons (image : FirmwareImage) (rest : List FirmwareImage) :
    encodeImages (image :: rest) = image.encode ++ encodeImages rest := rfl

def ImageKind.all : List ImageKind := [.umacPrimary, .umacSecondary, .lmacPrimary, .lmacSecondary]

theorem ImageKind.mem_all (kind : ImageKind) : kind ∈ ImageKind.all := by
  cases kind <;> decide

theorem ImageKind.number_inj {first second : ImageKind} (same : first.number = second.number) :
    first = second := by
  cases first <;> cases second <;> first | rfl | exact absurd same (by decide)

theorem ImageKind.fromU32_eq_ok {value : UInt32} {kind : ImageKind} :
    ImageKind.fromU32 value = .ok kind ↔ value = kind.number := by
  constructor
  · intro found
    simp only [ImageKind.fromU32] at found
    split at found
    · cases found
      assumption
    · split at found
      · cases found
        assumption
      · split at found
        · cases found
          assumption
        · split at found
          · cases found
            assumption
          · cases found
  · intro same
    rw [same, ImageKind.fromU32_number]

/-- Four images without a repeated kind are one image of every kind. -/
theorem perm_all_iff {kinds : List ImageKind} :
    kinds.Perm ImageKind.all ↔ kinds.length = patchImageCount ∧ kinds.Nodup := by
  constructor
  · intro perm
    exact ⟨perm.length_eq, perm.nodup_iff.mpr (by decide)⟩
  · intro four
    obtain ⟨length, nodup⟩ := four
    have inside : kinds.Subperm ImageKind.all :=
      List.Nodup.subperm nodup fun kind _ => kind.mem_all
    exact inside.perm_of_length_le (by rw [length]; decide)

namespace FirmwareBundle

/-! ## One image -/

section Walk
variable {bundle : FirmwareBundle} {offset start last : Nat} {kind wanted : ImageKind}

theorem drop_of_le {bytes : Bytes} {offset next : Nat} (order : offset ≤ next) :
    bytes.drop offset = slice bytes offset next ++ bytes.drop next := by
  have rest : bytes.drop next = (bytes.drop offset).drop (next - offset) := by
    rw [List.drop_drop]
    congr 1
    omega
  rw [slice, rest, List.take_append_drop]

theorem slice_of_drop {bytes front rest : Bytes} {offset : Nat}
    (split : bytes.drop offset = front ++ rest) :
    slice bytes offset (offset + front.length) = front := by
  rw [slice, split, Nat.add_sub_cancel_left, List.take_left]

theorem drop_add_of_drop {bytes front rest : Bytes} {offset : Nat}
    (split : bytes.drop offset = front ++ rest) : bytes.drop (offset + front.length) = rest := by
  rw [← List.drop_drop, split, List.drop_left]

theorem readU32_of_drop {bytes rest : Bytes} {value : UInt32} {offset : Nat}
    (split : bytes.drop offset = le32 value ++ rest) : readU32 bytes offset = value := by
  have word := slice_of_drop split
  rw [length_le32] at word
  rw [readU32, word, ofNat_leNat_le32]

/-- An accepted extent holds an encoded image. -/
theorem encode_of_imageExtent (ends : bundle.payloadEnd = bundle.bytes.length)
    (found : bundle.imageExtent offset = .ok (kind, start, last)) :
    ∃ data : Bytes, data.length < 2 ^ 32 ∧
      bundle.bytes.drop offset = (FirmwareImage.mk kind data).encode ++ bundle.bytes.drop last ∧
      start = offset + imageHeaderLen ∧ last = offset + imageHeaderLen + data.length ∧
      last ≤ bundle.bytes.length := by
  rw [imageExtent, ends] at found
  dsimp only at found
  obtain ⟨header, found⟩ := refused_eq_ok.mp found
  rw [bind_eq_ok] at found
  obtain ⟨found_kind, named, found⟩ := found
  obtain ⟨payload, found⟩ := refused_eq_ok.mp found
  cases found
  rw [ImageKind.fromU32_eq_ok] at named
  have size : imageHeaderLen = 8 := rfl
  have small := (readU32 bundle.bytes (offset + 4)).toNat_lt
  have length : (slice bundle.bytes (offset + imageHeaderLen) (offset + imageHeaderLen +
      (readU32 bundle.bytes (offset + 4)).toNat)).length =
        (readU32 bundle.bytes (offset + 4)).toNat := by
    rw [length_slice_of_le (by omega)]
    omega
  refine ⟨slice bundle.bytes (offset + imageHeaderLen) (offset + imageHeaderLen +
    (readU32 bundle.bytes (offset + 4)).toNat), ?_, ?_, rfl, ?_, by omega⟩
  · rw [length]
    exact small
  · rw [FirmwareImage.encode]
    dsimp only
    rw [length, UInt32.ofNat_toNat, ← named, le32_readU32 (by omega), le32_readU32 (by omega),
      List.append_assoc, List.append_assoc, ← drop_of_le (by omega), size,
      ← drop_of_le (by omega), ← drop_of_le (by omega)]
  · rw [length]

/-- An encoded image is an accepted extent. -/
theorem imageExtent_of_encode {image : FirmwareImage} {rest : Bytes}
    (ends : bundle.payloadEnd = bundle.bytes.length) (small : image.data.length < 2 ^ 32)
    (split : bundle.bytes.drop offset = image.encode ++ rest) :
    bundle.imageExtent offset = .ok (image.kind, offset + imageHeaderLen,
      offset + imageHeaderLen + image.data.length) := by
  have number : readU32 bundle.bytes offset = image.kind.number := by
    rw [FirmwareImage.encode, List.append_assoc] at split
    exact readU32_of_drop split
  have size : (readU32 bundle.bytes (offset + 4)).toNat = image.data.length := by
    rw [FirmwareImage.encode, List.append_assoc] at split
    have behind := drop_add_of_drop split
    rw [length_le32, List.append_assoc] at behind
    rw [readU32_of_drop behind, UInt32.toNat_ofNat_of_lt' small]
  have inside : offset + (imageHeaderLen + image.data.length) ≤ bundle.bytes.length := by
    have lengths := congrArg List.length split
    rw [List.length_drop, List.length_append, FirmwareImage.length_encode] at lengths
    have header : imageHeaderLen = 8 := rfl
    omega
  rw [imageExtent, number, size, ImageKind.fromU32_number, ends, if_neg (by omega)]
  dsimp only
  change (if _ then _ else _) = _
  rw [if_neg (by omega)]
  rfl

/-! ## The two walks -/

/-- The kinds that a walk has seen. -/
def seenBy (seen : UInt8) (images : List FirmwareImage) : UInt8 :=
  images.foldl (fun seen image => seen ||| mask image.kind) seen

/-- No image repeats a kind, or has one that was seen before. -/
def Fresh (seen : UInt8) (images : List FirmwareImage) : Prop :=
  (images.map FirmwareImage.kind).Nodup ∧ ∀ image ∈ images, seen &&& mask image.kind = 0

theorem or_mask_eq_zero {seen : UInt8} {first second : ImageKind} :
    (seen ||| mask first) &&& mask second = 0 ↔ seen &&& mask second = 0 ∧ first ≠ second := by
  have split : (seen ||| mask first) &&& mask second =
      (seen &&& mask second) ||| (mask first &&& mask second) :=
    UInt8.toBitVec_inj.mp BitVec.and_or_distrib_right
  constructor
  · intro none
    rw [split] at none
    have parts := UInt8.or_eq_zero_iff.mp none
    refine ⟨parts.1, ?_⟩
    intro same
    subst same
    have some : mask first &&& mask first ≠ 0 := by cases first <;> decide
    exact some parts.2
  · intro both
    have apart : mask first &&& mask second = 0 := by
      cases first <;> cases second <;> first | rfl | exact absurd rfl both.2
    rw [split, both.1, apart]
    rfl

theorem fresh_cons {seen : UInt8} {image : FirmwareImage} {rest : List FirmwareImage} :
    Fresh seen (image :: rest) ↔
      seen &&& mask image.kind = 0 ∧ Fresh (seen ||| mask image.kind) rest := by
  simp only [Fresh, List.map_cons, List.nodup_cons, List.mem_cons, forall_eq_or_imp, or_mask_eq_zero,
    List.mem_map, not_exists, not_and]
  constructor
  · intro fresh
    obtain ⟨⟨apart, nodup⟩, unseen, later⟩ := fresh
    exact ⟨unseen, nodup, fun other member => ⟨later other member, Ne.symm (apart other member)⟩⟩
  · intro fresh
    obtain ⟨unseen, nodup, later⟩ := fresh
    exact ⟨⟨fun other member => Ne.symm (later other member).2, nodup⟩, unseen,
      fun other member => (later other member).1⟩

/-- The images that a walk has taken: their bytes, one after the other. -/
structure Taken (bundle : FirmwareBundle) (offset last : Nat) (images : List FirmwareImage) :
    Prop where
  bytes : bundle.bytes.drop offset = encodeImages images ++ bundle.bytes.drop last
  ends : last = offset + (encodeImages images).length
  inside : last ≤ bundle.bytes.length
  lengths : ∀ image ∈ images, image.data.length < 2 ^ 32

theorem taken_of_seenFrom {seen total : UInt8} {count : Nat}
    (ends : bundle.payloadEnd = bundle.bytes.length) (inside : offset ≤ bundle.bytes.length)
    (walked : bundle.seenFrom count offset seen = .ok (total, last)) :
    ∃ images, images.length = count ∧ Taken bundle offset last images ∧ Fresh seen images := by
  induction count generalizing offset seen with
  | zero =>
      cases walked
      exact ⟨[], rfl, ⟨rfl, rfl, inside, by simp⟩, by simp [Fresh]⟩
  | succ count hypothesis =>
      rw [seenFrom, bind_eq_ok] at walked
      obtain ⟨⟨kind, start, next⟩, extent, walked⟩ := walked
      dsimp only at walked
      obtain ⟨unseen, walked⟩ := refused_eq_ok.mp walked
      obtain ⟨data, small, split, rfl, rfl, within⟩ := encode_of_imageExtent ends extent
      obtain ⟨images, length, taken, fresh⟩ := hypothesis within walked
      refine ⟨⟨kind, data⟩ :: images, by rw [List.length_cons, length], ?_, ?_⟩
      · constructor
        · rw [split, taken.bytes, encodeImages_cons, List.append_assoc]
        · rw [taken.ends, encodeImages_cons, List.length_append, FirmwareImage.length_encode,
            Nat.add_assoc, Nat.add_assoc, Nat.add_assoc]
        · exact taken.inside
        · intro image member
          rcases List.mem_cons.mp member with rfl | later
          · exact small
          · exact taken.lengths image later
      · rw [fresh_cons]
        exact ⟨Decidable.not_not.mp unseen, fresh⟩

theorem seenFrom_of_images {seen : UInt8} {images : List FirmwareImage} {rest : Bytes}
    (ends : bundle.payloadEnd = bundle.bytes.length)
    (split : bundle.bytes.drop offset = encodeImages images ++ rest)
    (small : ∀ image ∈ images, image.data.length < 2 ^ 32) (fresh : Fresh seen images) :
    bundle.seenFrom images.length offset seen =
      .ok (seenBy seen images, offset + (encodeImages images).length) := by
  induction images generalizing offset seen with
  | nil => rfl
  | cons image images hypothesis =>
      rw [fresh_cons] at fresh
      rw [encodeImages_cons, List.append_assoc] at split
      have extent := imageExtent_of_encode ends (small image List.mem_cons_self) split
      have behind := drop_add_of_drop split
      rw [FirmwareImage.length_encode, ← Nat.add_assoc] at behind
      have later := hypothesis behind (fun other member => small other (List.mem_cons_of_mem _ member))
        fresh.2
      rw [List.length_cons, seenFrom, extent]
      change (if seen &&& mask image.kind ≠ 0 then _ else _) = _
      rw [if_neg (not_not_intro fresh.1)]
      rw [encodeImages_cons, List.length_append, FirmwareImage.length_encode]
      refine later.trans ?_
      rw [Nat.add_assoc, Nat.add_assoc, Nat.add_assoc]
      rfl

/-- The other walk finds the first image of the kind. -/
theorem imageFrom_of_images {images : List FirmwareImage} {rest : Bytes}
    {image : FirmwareImage} (ends : bundle.payloadEnd = bundle.bytes.length)
    (split : bundle.bytes.drop offset = encodeImages images ++ rest)
    (small : ∀ image ∈ images, image.data.length < 2 ^ 32)
    (nodup : (images.map FirmwareImage.kind).Nodup) (member : image ∈ images) :
    bundle.imageFrom image.kind images.length offset = .ok image := by
  induction images generalizing offset with
  | nil => cases member
  | cons first images hypothesis =>
      rw [List.map_cons, List.nodup_cons] at nodup
      rw [encodeImages_cons, List.append_assoc] at split
      have extent := imageExtent_of_encode ends (small first List.mem_cons_self) split
      have behind := drop_add_of_drop split
      rw [FirmwareImage.length_encode, ← Nat.add_assoc] at behind
      rw [List.length_cons, imageFrom, extent]
      change (if first.kind = image.kind then _ else _) = _
      rcases List.mem_cons.mp member with rfl | later
      · have header : bundle.bytes.drop offset =
            (le32 image.kind.number ++ le32 (UInt32.ofNat image.data.length)) ++
              (image.data ++ (encodeImages images ++ rest)) := by
          rw [split, FirmwareImage.encode]
          simp only [List.append_assoc]
        have data := drop_add_of_drop header
        rw [List.length_append, length_le32, length_le32] at data
        have found := slice_of_drop data
        rw [if_pos rfl]
        exact congrArg (fun data => Except.ok (FirmwareImage.mk image.kind data)) found
      · have apart : first.kind ≠ image.kind := by
          intro same
          exact nodup.1 (same ▸ List.mem_map_of_mem later)
        rw [if_neg apart]
        exact hypothesis behind (fun other inner => small other (List.mem_cons_of_mem _ inner))
          nodup.2 later

/-! ## Where the images lie -/

/-- Where the image of a kind starts with its header, and where its data ends. -/
def extentFrom (kind : ImageKind) : Nat → List FirmwareImage → Nat × Nat
  | offset, [] => (offset, offset)
  | offset, image :: rest =>
      if image.kind = kind then (offset, offset + image.encode.length)
      else extentFrom kind (offset + image.encode.length) rest

theorem extentFrom_inside (kind : ImageKind) (offset : Nat) (images : List FirmwareImage) :
    offset ≤ (extentFrom kind offset images).1 ∧
      (extentFrom kind offset images).1 ≤ (extentFrom kind offset images).2 ∧
      (extentFrom kind offset images).2 ≤ offset + (encodeImages images).length := by
  induction images generalizing offset with
  | nil => exact ⟨Nat.le_refl _, Nat.le_refl _, Nat.le_add_right _ _⟩
  | cons image rest hypothesis =>
      have later := hypothesis (offset + image.encode.length)
      rw [extentFrom, encodeImages_cons, List.length_append]
      split
      · dsimp only
        omega
      · omega

/-- Every position is in the extent of one image. -/
theorem extentFrom_once {images : List FirmwareImage} {position : Nat}
    (nodup : (images.map FirmwareImage.kind).Nodup) (above : offset ≤ position)
    (below : position < offset + (encodeImages images).length) :
    ∃ kind ∈ images.map FirmwareImage.kind,
      ((extentFrom kind offset images).1 ≤ position ∧
        position < (extentFrom kind offset images).2) ∧
      ∀ other ∈ images.map FirmwareImage.kind,
        (extentFrom other offset images).1 ≤ position →
          position < (extentFrom other offset images).2 → other = kind := by
  induction images generalizing offset with
  | nil =>
      rw [encodeImages_nil, List.length_nil] at below
      omega
  | cons image rest hypothesis =>
      rw [encodeImages_cons, List.length_append] at below
      rw [List.map_cons, List.nodup_cons] at nodup
      have here : extentFrom image.kind offset (image :: rest) =
          (offset, offset + image.encode.length) := if_pos rfl
      have there (other : ImageKind) (member : other ∈ rest.map FirmwareImage.kind) :
          extentFrom other offset (image :: rest) =
            extentFrom other (offset + image.encode.length) rest := by
        apply if_neg
        intro same
        exact nodup.1 (same ▸ member)
      by_cases first : position < offset + image.encode.length
      · refine ⟨image.kind, List.mem_cons_self, ?_, ?_⟩
        · rw [here]
          exact ⟨above, first⟩
        · intro other member starts _
          rcases List.mem_cons.mp member with rfl | later
          · rfl
          · rw [there other later] at starts
            have inside := extentFrom_inside other (offset + image.encode.length) rest
            omega
      · obtain ⟨kind, member, within, only⟩ := hypothesis nodup.2 (Nat.not_lt.mp first) (by omega)
        refine ⟨kind, List.mem_cons_of_mem _ member, ?_, ?_⟩
        · rw [there kind member]
          exact within
        · intro other found starts ends
          rcases List.mem_cons.mp found with rfl | later
          · rw [here] at ends
            dsimp only at ends
            omega
          · rw [there other later] at starts ends
            exact only other later starts ends

theorem drop_extentFrom {images : List FirmwareImage} {image : FirmwareImage} {rest : Bytes}
    (split : bundle.bytes.drop offset = encodeImages images ++ rest)
    (nodup : (images.map FirmwareImage.kind).Nodup) (member : image ∈ images) :
    (extentFrom image.kind offset images).2 =
        (extentFrom image.kind offset images).1 + image.encode.length ∧
      ∃ behind, bundle.bytes.drop (extentFrom image.kind offset images).1 =
        image.encode ++ behind := by
  induction images generalizing offset with
  | nil => cases member
  | cons first images hypothesis =>
      rw [List.map_cons, List.nodup_cons] at nodup
      rw [encodeImages_cons, List.append_assoc] at split
      rw [extentFrom]
      rcases List.mem_cons.mp member with rfl | later
      · rw [if_pos rfl]
        exact ⟨rfl, _, split⟩
      · rw [if_neg]
        · exact hypothesis (drop_add_of_drop split) nodup.2 later
        · intro same
          exact nodup.1 (same ▸ List.mem_map_of_mem later)

/-- The images of a bundle by kind: every kind is found behind a header of its number and
its length, and every byte of the payload lies in the extent of one kind. -/
structure Tiles (bundle : FirmwareBundle) (first last : ImageKind → Nat) : Prop where
  image : ∀ kind, bundle.image kind =
    .ok { kind, data := slice bundle.bytes (first kind + imageHeaderLen) (last kind) }
  inside : ∀ kind, patchHeaderLen ≤ first kind ∧ first kind + imageHeaderLen ≤ last kind ∧
    last kind ≤ bundle.bytes.length
  number : ∀ kind, readU32 bundle.bytes (first kind) = kind.number
  length : ∀ kind, (readU32 bundle.bytes (first kind + 4)).toNat =
    last kind - (first kind + imageHeaderLen)
  once : ∀ position, patchHeaderLen ≤ position → position < bundle.bytes.length →
    ∃! kind, first kind ≤ position ∧ position < last kind

theorem fields_of_drop {image : FirmwareImage} {behind : Bytes}
    (small : image.data.length < 2 ^ 32)
    (split : bundle.bytes.drop offset = image.encode ++ behind) :
    readU32 bundle.bytes offset = image.kind.number ∧
      (readU32 bundle.bytes (offset + 4)).toNat = image.data.length ∧
      slice bundle.bytes (offset + imageHeaderLen) (offset + image.encode.length) =
        image.data := by
  rw [FirmwareImage.encode, List.append_assoc] at split
  have length := drop_add_of_drop split
  rw [length_le32, List.append_assoc] at length
  have data := drop_add_of_drop length
  rw [length_le32] at data
  refine ⟨readU32_of_drop split, ?_, ?_⟩
  · rw [readU32_of_drop length, UInt32.toNat_ofNat_of_lt' small]
  · have found := slice_of_drop data
    rw [FirmwareImage.length_encode, ← Nat.add_assoc]
    exact found

theorem tiles_of_taken {images : List FirmwareImage}
    (ends : bundle.payloadEnd = bundle.bytes.length)
    (taken : Taken bundle patchHeaderLen bundle.bytes.length images)
    (kinds : (images.map FirmwareImage.kind).Perm ImageKind.all) :
    Tiles bundle (fun kind => (extentFrom kind patchHeaderLen images).1)
      (fun kind => (extentFrom kind patchHeaderLen images).2) := by
  obtain ⟨four, nodup⟩ := perm_all_iff.mp kinds
  rw [List.length_map] at four
  have present (kind : ImageKind) : ∃ image ∈ images, image.kind = kind :=
    List.mem_map.mp (kinds.mem_iff.mpr kind.mem_all)
  have bounds := fun kind => extentFrom_inside kind patchHeaderLen images
  constructor
  · intro kind
    obtain ⟨image, member, rfl⟩ := present kind
    obtain ⟨extent, behind, split⟩ := drop_extentFrom taken.bytes nodup member
    obtain ⟨_, _, data⟩ := fields_of_drop (taken.lengths image member) split
    have found := imageFrom_of_images ends taken.bytes taken.lengths nodup member
    rw [four] at found
    rw [extent, data]
    exact found
  · intro kind
    obtain ⟨image, member, rfl⟩ := present kind
    obtain ⟨extent, _, _⟩ := drop_extentFrom taken.bytes nodup member
    have bound := bounds image.kind
    rw [← taken.ends] at bound
    rw [FirmwareImage.length_encode] at extent
    omega
  · intro kind
    obtain ⟨image, member, rfl⟩ := present kind
    obtain ⟨_, behind, split⟩ := drop_extentFrom taken.bytes nodup member
    exact (fields_of_drop (taken.lengths image member) split).1
  · intro kind
    obtain ⟨image, member, rfl⟩ := present kind
    obtain ⟨extent, behind, split⟩ := drop_extentFrom taken.bytes nodup member
    rw [(fields_of_drop (taken.lengths image member) split).2.1, extent,
      FirmwareImage.length_encode]
    omega
  · intro position above below
    rw [taken.ends] at below
    obtain ⟨kind, _, within, only⟩ := extentFrom_once nodup above below
    refine ⟨kind, within, ?_⟩
    intro other inside
    exact only other (kinds.mem_iff.mpr other.mem_all) inside.1 inside.2

end Walk

/-! ## The header -/

section Header
variable (payloadLen : UInt32) (hash : Octets 32)

def fieldsOf : List Bytes :=
  [le32 patchSignature, le32 (UInt32.ofNat patchImageCount), le32 pinnedPatchVersion,
    le32 featureSystemMode, le32 payloadLen, hash.1]

def encodeHeader : Bytes := (fieldsOf payloadLen hash).flatten

/-- What the parser makes of an accepted header. -/
def headerWith : FirmwareHeader :=
  { version := pinnedPatchVersion, featureFlags := featureSystemMode, payloadLen, hash }

@[simp] theorem length_encodeHeader : (encodeHeader payloadLen hash).length = patchHeaderLen := by
  simp [encodeHeader, fieldsOf, hash.2, patchHeaderLen]

theorem parseCompatibleHeader_encodeHeader (rest : Bytes) :
    parseCompatibleHeader (encodeHeader payloadLen hash ++ rest) =
      .ok (headerWith payloadLen hash) := by
  have word (index : Nat) (value : UInt32) (offset : Nat)
      (present : (fieldsOf payloadLen hash)[index]? = some (le32 value))
      (starts : (((fieldsOf payloadLen hash).map List.length).take index).sum = offset)
      (inside : offset + 4 ≤ patchHeaderLen) :
      readU32 (encodeHeader payloadLen hash ++ rest) offset = value := by
    rw [readU32_append_left (by rw [length_encodeHeader]; exact inside)]
    exact readU32_part present starts
  have digest : octetsAt (encodeHeader payloadLen hash ++ rest) 20 32 = hash := by
    apply Subtype.ext
    rw [octetsAt_eq_slice (by rw [List.length_append, length_encodeHeader]; exact Nat.le_add_right _ _),
      slice_append_left (by rw [length_encodeHeader]; decide)]
    have present : (fieldsOf payloadLen hash)[5]? = some hash.1 := rfl
    exact slice_part present (by simp [fieldsOf]) (by rw [hash.2])
  rw [parseCompatibleHeader, word 0 patchSignature 0 rfl rfl (by decide),
    word 1 (UInt32.ofNat patchImageCount) 4 rfl (by simp [fieldsOf]) (by decide),
    word 2 pinnedPatchVersion 8 rfl (by simp [fieldsOf]) (by decide),
    word 3 featureSystemMode 12 rfl (by simp [fieldsOf]) (by decide),
    word 4 payloadLen 16 rfl (by simp [fieldsOf]) (by decide), digest]
  rfl

variable {payloadLen hash}

theorem encodeHeader_of_parse {bytes : Bytes} {header : FirmwareHeader}
    (long : patchHeaderLen ≤ bytes.length) (parsed : parseCompatibleHeader bytes = .ok header) :
    bytes = encodeHeader header.payloadLen header.hash ++ bytes.drop patchHeaderLen ∧
      header = headerWith header.payloadLen header.hash := by
  have size : patchHeaderLen = 52 := rfl
  rw [parseCompatibleHeader] at parsed
  obtain ⟨signature, parsed⟩ := refused_eq_ok.mp parsed
  obtain ⟨count, parsed⟩ := refused_eq_ok.mp parsed
  obtain ⟨version, parsed⟩ := refused_eq_ok.mp parsed
  obtain ⟨features, parsed⟩ := refused_eq_ok.mp parsed
  cases parsed
  rw [Decidable.not_not] at signature count version features
  have four : readU32 bytes 4 = UInt32.ofNat patchImageCount := by
    rw [← count, UInt32.ofNat_toNat]
  constructor
  · rw [encodeHeader, fieldsOf]
    dsimp only
    rw [octetsAt_eq_slice long, ← signature, ← four, ← version, ← features,
      le32_readU32 (by omega), le32_readU32 (by omega), le32_readU32 (by omega),
      le32_readU32 (by omega), le32_readU32 (by omega)]
    simp only [List.flatten_cons, List.flatten_nil, List.append_nil, List.append_assoc]
    rw [size, ← drop_of_le (by omega), ← drop_of_le (by omega), ← drop_of_le (by omega),
      ← drop_of_le (by omega), ← drop_of_le (by omega), ← drop_of_le (by omega)]
    rfl
  · rw [version, features]
    rfl

end Header

/-! ## The bundles that are accepted -/

/-- One image of every kind, in any order, whose bytes have a length that fits its field. -/
structure FourImages (images : List FirmwareImage) : Prop where
  kinds : (images.map FirmwareImage.kind).Perm ImageKind.all
  fits : (encodeImages images).length < 2 ^ 32

def bundleBytes (hash : Octets 32) (images : List FirmwareImage) : Bytes :=
  encodeHeader (UInt32.ofNat (encodeImages images).length) hash ++ encodeImages images

def bundleOf (hash : Octets 32) (images : List FirmwareImage) : FirmwareBundle :=
  { bytes := bundleBytes hash images
    header := headerWith (UInt32.ofNat (encodeImages images).length) hash
    payloadEnd := patchHeaderLen + (encodeImages images).length }

section Accepted
variable {hash : Octets 32} {images : List FirmwareImage}

theorem length_data_le {image : FirmwareImage} (member : image ∈ images) :
    image.data.length ≤ (encodeImages images).length := by
  induction images with
  | nil => cases member
  | cons first rest hypothesis =>
      rw [encodeImages_cons, List.length_append, FirmwareImage.length_encode]
      rcases List.mem_cons.mp member with rfl | later
      · omega
      · have inside := hypothesis later
        omega

theorem bundleOf_ends : (bundleOf hash images).payloadEnd = (bundleOf hash images).bytes.length := by
  simp only [bundleOf, bundleBytes, List.length_append, length_encodeHeader]

theorem FourImages.taken (four : FourImages images) :
    Taken (bundleOf hash images) patchHeaderLen (bundleOf hash images).bytes.length images := by
  have start : (bundleOf hash images).bytes.drop patchHeaderLen = encodeImages images := by
    rw [bundleOf, bundleBytes, ← length_encodeHeader (UInt32.ofNat (encodeImages images).length)
      hash, List.drop_left]
  constructor
  · rw [start, List.drop_length, List.append_nil]
  · rw [← bundleOf_ends]
    rfl
  · exact Nat.le_refl _
  · intro image member
    exact Nat.lt_of_le_of_lt (length_data_le member) four.fits

theorem seenBy_perm (seen : UInt8) {kinds : List ImageKind}
    (perm : kinds.Perm ImageKind.all) :
    kinds.foldl (fun seen kind => seen ||| mask kind) seen =
      ImageKind.all.foldl (fun seen kind => seen ||| mask kind) seen := by
  apply perm.foldl_eq'
  intro first _ second _ seen
  rw [UInt8.or_assoc, UInt8.or_assoc, UInt8.or_comm (mask first)]

theorem FourImages.valid (four : FourImages images) :
    (bundleOf hash images).validateImages = .ok () := by
  have taken : Taken (bundleOf hash images) _ _ images := four.taken
  obtain ⟨length, nodup⟩ := perm_all_iff.mp four.kinds
  rw [List.length_map] at length
  have fresh : Fresh 0 images := ⟨nodup, fun image _ => UInt8.zero_and⟩
  have walked := seenFrom_of_images bundleOf_ends taken.bytes taken.lengths fresh
  have all : seenBy 0 images = 0b1111 := by
    have same := seenBy_perm 0 four.kinds
    rw [List.foldl_map] at same
    rw [seenBy, same]
    decide
  rw [length, all, ← taken.ends] at walked
  rw [validateImages, walked]
  change (if _ ∨ _ then _ else _) = _
  have complete : ¬ ((0b1111 : UInt8) ≠ 0b1111 ∨
      (bundleOf hash images).bytes.length ≠ (bundleOf hash images).payloadEnd) := by
    rw [bundleOf_ends]
    simp
  rw [if_neg complete]
  rfl

theorem FourImages.parse (four : FourImages images) :
    parse (bundleBytes hash images) = .ok (bundleOf hash images) := by
  have longer : patchHeaderLen ≤ (bundleBytes hash images).length := by
    rw [bundleBytes, List.length_append, length_encodeHeader]
    exact Nat.le_add_right _ _
  have payload : (UInt32.ofNat (encodeImages images).length).toNat = (encodeImages images).length :=
    UInt32.toNat_ofNat_of_lt' four.fits
  have ends : exactPayloadEnd (bundleBytes hash images)
      (UInt32.ofNat (encodeImages images).length) = .ok (bundleOf hash images).payloadEnd := by
    have whole : (bundleBytes hash images).length = patchHeaderLen + (encodeImages images).length := by
      rw [bundleBytes, List.length_append, length_encodeHeader]
    rw [exactPayloadEnd, payload, whole, if_neg (Nat.lt_irrefl _)]
    exact if_neg (not_not_intro rfl)
  rw [FirmwareBundle.parse, if_neg (Nat.not_lt.mpr longer), bundleBytes,
    parseCompatibleHeader_encodeHeader, ← bundleBytes]
  change (exactPayloadEnd _ (UInt32.ofNat (encodeImages images).length) >>= _) = _
  rw [ends]
  change ((bundleOf hash images).validateImages >>= _) = _
  rw [four.valid]
  rfl

theorem FourImages.image (four : FourImages images) {image : FirmwareImage}
    (member : image ∈ images) : (bundleOf hash images).image image.kind = .ok image := by
  have taken : Taken (bundleOf hash images) _ _ images := four.taken
  obtain ⟨length, nodup⟩ := perm_all_iff.mp four.kinds
  rw [List.length_map] at length
  have found := imageFrom_of_images bundleOf_ends taken.bytes taken.lengths nodup member
  rw [length] at found
  exact found

/-- An accepted byte string is a header and four images. -/
theorem images_of_parse {bytes : Bytes} {bundle : FirmwareBundle}
    (accepted : FirmwareBundle.parse bytes = .ok bundle) :
    ∃ hash images, FourImages images ∧ bytes = bundleBytes hash images ∧
      bundle = bundleOf hash images := by
  rw [FirmwareBundle.parse] at accepted
  obtain ⟨long, accepted⟩ := refused_eq_ok.mp accepted
  rw [bind_eq_ok] at accepted
  obtain ⟨header, parsed, accepted⟩ := accepted
  rw [bind_eq_ok] at accepted
  obtain ⟨payloadEnd, exact_, accepted⟩ := accepted
  rw [bind_eq_ok] at accepted
  obtain ⟨_, valid, same⟩ := accepted
  cases same
  obtain ⟨split, header_eq⟩ := encodeHeader_of_parse (Nat.not_lt.mp long) parsed
  rw [exactPayloadEnd] at exact_
  obtain ⟨_, exact_⟩ := refused_eq_ok.mp exact_
  obtain ⟨whole, exact_⟩ := refused_eq_ok.mp exact_
  cases exact_
  rw [Decidable.not_not] at whole
  rw [validateImages, bind_eq_ok] at valid
  obtain ⟨⟨total, last⟩, walked, valid⟩ := valid
  dsimp only at valid
  obtain ⟨complete, _⟩ := refused_eq_ok.mp valid
  rw [not_or, Decidable.not_not, Decidable.not_not] at complete
  obtain ⟨images, length, taken, fresh⟩ := taken_of_seenFrom whole (by dsimp only; omega) walked
  have ended : last = bytes.length := complete.2.trans whole
  subst ended
  have payload : bytes.drop patchHeaderLen = encodeImages images := by
    rw [taken.bytes, List.drop_length, List.append_nil]
  have size : header.payloadLen.toNat = (encodeImages images).length := by
    have lengths := taken.ends
    omega
  have word : UInt32.ofNat (encodeImages images).length = header.payloadLen := by
    rw [← size, UInt32.ofNat_toNat]
  have bytes_eq : bytes = bundleBytes header.hash images := by
    rw [bundleBytes, word, ← payload]
    exact split
  refine ⟨header.hash, images, ?_, bytes_eq, ?_⟩
  · constructor
    · rw [perm_all_iff, List.length_map]
      exact ⟨length, fresh.1⟩
    · rw [← size]
      exact header.payloadLen.toNat_lt
  · rw [bundleOf, ← bytes_eq, word, ← header_eq, size]

/-- The parser accepts exactly the encodings of four images, in any order; the images of an
accepted bundle tile its payload; and each image is found again under its kind. -/
theorem parse_grammar :
    (∀ bytes, (∃ bundle, FirmwareBundle.parse bytes = .ok bundle) ↔
      ∃ hash images, FourImages images ∧ bytes = bundleBytes hash images) ∧
    (∀ bytes bundle, FirmwareBundle.parse bytes = .ok bundle →
      bundle.bytes = bytes ∧ ∃ first last, Tiles bundle first last) ∧
    (∀ hash images, FourImages images →
      FirmwareBundle.parse (bundleBytes hash images) = .ok (bundleOf hash images) ∧
        ∀ image ∈ images, (bundleOf hash images).image image.kind = .ok image) := by
  refine ⟨?_, ?_, ?_⟩
  · intro bytes
    constructor
    · intro accepted
      obtain ⟨bundle, accepted⟩ := accepted
      obtain ⟨hash, images, four, same, _⟩ := images_of_parse accepted
      exact ⟨hash, images, four, same⟩
    · intro encoded
      obtain ⟨hash, images, four, same⟩ := encoded
      exact ⟨_, same ▸ four.parse⟩
  · intro bytes bundle accepted
    obtain ⟨hash, images, four, same, whole⟩ := images_of_parse accepted
    subst whole
    exact ⟨same.symm, _, _, tiles_of_taken bundleOf_ends four.taken four.kinds⟩
  · intro hash images four
    exact ⟨four.parse, fun image member => four.image member⟩

end Accepted

end FirmwareBundle

end Nrf7002
