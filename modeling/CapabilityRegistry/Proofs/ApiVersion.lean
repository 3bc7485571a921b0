import CapabilityRegistry.Proofs.Numeral
import CapabilityRegistry.Proofs.Text
import CapabilityRegistry.Registry.Extraction

/-!
# Packed versions

The word of a version is read back as the version exactly where each number fits in its bits (`Fits.decodes`,
`Decodes.fits`). Nothing keeps the numbers that a definition packs within their bits: any four numbers of 32 bits
are the arguments of some definition (`apiVersion?_definition`), so that two versions may have one word
(`not_decodes_minor1024`).
-/

namespace CapabilityRegistry.ApiVersion

open Extraction (apiVersion? macroArguments?)
open Markup (Element)

/-- The number in the bits of a word from `high` down to `low`. -/
def bits (word : UInt32) (high low : Nat) : Nat :=
  word.toNat / 2 ^ low % 2 ^ (high + 1 - low)

/-- The bits of a word are a version. -/
structure Decodes (word : UInt32) (v : ApiVersion) : Prop where
  variant : bits word 31 29 = v.variant.toNat
  major : bits word 28 22 = v.major.toNat
  minor : bits word 21 12 = v.minor.toNat
  patch : bits word 11 0 = v.patch.toNat

/-- Each number of a version fits in its bits. -/
structure Fits (v : ApiVersion) : Prop where
  variant : v.variant.toNat < 2 ^ 3
  major : v.major.toNat < 2 ^ 7
  minor : v.minor.toNat < 2 ^ 10
  patch : v.patch.toNat < 2 ^ 12

variable {word : UInt32} {v w : ApiVersion}

/-! ## Words -/

/-- Bits from one place to another make a number below the power of two of their count. -/
lemma bits_lt (word : UInt32) (high low : Nat) : bits word high low < 2 ^ (high + 1 - low) :=
  Nat.mod_lt _ (Nat.two_pow_pos _)

/-- Only numbers that fit can be read back. -/
lemma Decodes.fits (decodes : Decodes word v) : v.Fits where
  variant := decodes.variant ▸ bits_lt word 31 29
  major := decodes.major ▸ bits_lt word 28 22
  minor := decodes.minor ▸ bits_lt word 21 12
  patch := decodes.patch ▸ bits_lt word 11 0

/-- A word is one version. -/
lemma Decodes.unique (decodes : Decodes word v) (decodes' : Decodes word w) : v = w := by
  have variant := UInt32.toNat_inj.1 (decodes.variant.symm.trans decodes'.variant)
  have major := UInt32.toNat_inj.1 (decodes.major.symm.trans decodes'.major)
  have minor := UInt32.toNat_inj.1 (decodes.minor.symm.trans decodes'.minor)
  have patch := UInt32.toNat_inj.1 (decodes.patch.symm.trans decodes'.patch)
  cases v
  cases w
  congr

/-- A number that has room behind it keeps its value when it is shifted. -/
lemma toNat_shifted {n low : UInt32} (room : n.toNat * 2 ^ (low.toNat % 32) < 2 ^ 32) :
    (n <<< low).toNat = n.toNat * 2 ^ (low.toNat % 32) := by
  rw [UInt32.toNat_shiftLeft, Nat.shiftLeft_eq, Nat.mod_eq_of_lt room]

/-- A number behind others is added to them. -/
lemma or_eq_add {front n low : Nat} (shifted : 2 ^ low ∣ front) (below : n < 2 ^ low) :
    front ||| n = front + n := by
  obtain ⟨k, rfl⟩ := shifted
  rw [Nat.mul_comm, ← Nat.shiftLeft_eq, Nat.shiftLeft_add_eq_or_of_lt below]

/-- Numbers that fit stand side by side in the word. -/
lemma Fits.toNat_packed (fits : v.Fits) : v.packed.toNat =
    v.variant.toNat * 2 ^ 29 + v.major.toNat * 2 ^ 22 + v.minor.toNat * 2 ^ 12 + v.patch.toNat := by
  obtain ⟨variant, major, minor, patch⟩ := fits
  have variant' : (v.variant <<< 29).toNat = v.variant.toNat * 2 ^ 29 := toNat_shifted (by
    show _ * 2 ^ 29 < _
    omega)
  have major' : (v.major <<< 22).toNat = v.major.toNat * 2 ^ 22 := toNat_shifted (by
    show _ * 2 ^ 22 < _
    omega)
  have minor' : (v.minor <<< 12).toNat = v.minor.toNat * 2 ^ 12 := toNat_shifted (by
    show _ * 2 ^ 12 < _
    omega)
  -- each number is below the lowest bit that those before it may have
  calc v.packed.toNat
    _ = v.variant.toNat * 2 ^ 29 ||| v.major.toNat * 2 ^ 22 ||| v.minor.toNat * 2 ^ 12 ||| v.patch.toNat := by
      rw [packed, UInt32.toNat_or, UInt32.toNat_or, UInt32.toNat_or, variant', major', minor']
    _ = v.variant.toNat * 2 ^ 29 + v.major.toNat * 2 ^ 22 ||| v.minor.toNat * 2 ^ 12 ||| v.patch.toNat := by
      rw [or_eq_add (Nat.dvd_mul_left (2 ^ 29) v.variant.toNat) (by omega)]
    _ = v.variant.toNat * 2 ^ 29 + v.major.toNat * 2 ^ 22 + v.minor.toNat * 2 ^ 12 ||| v.patch.toNat := by
      have shifted : 2 ^ 22 ∣ v.variant.toNat * 2 ^ 29 + v.major.toNat * 2 ^ 22 := by omega
      rw [or_eq_add shifted (by omega)]
    _ = _ := by
      have shifted : 2 ^ 12 ∣ v.variant.toNat * 2 ^ 29 + v.major.toNat * 2 ^ 22 + v.minor.toNat * 2 ^ 12 := by
        omega
      rw [or_eq_add shifted (by omega)]

/-- A version whose parts fit is found again in its packed word. -/
lemma Fits.decodes (fits : v.Fits) : Decodes v.packed v := by
  have word := fits.toNat_packed
  obtain ⟨variant, major, minor, patch⟩ := fits
  constructor
  all_goals
    rw [bits, word]
    omega

/-! ## Definitions -/

/-- The numbers of a version as the arguments of a macro. -/
def arguments (v : ApiVersion) : List Char :=
  Nat.toDigits 10 v.variant.toNat ++ ',' :: ' ' :: (Nat.toDigits 10 v.major.toNat ++ ',' :: ' ' ::
    (Nat.toDigits 10 v.minor.toNat ++ ',' :: ' ' :: Nat.toDigits 10 v.patch.toNat))

/-- The definition that packs a version. -/
def definition (v : ApiVersion) : Element where
  name := "type"
  attributes := [("category", "define")]
  children := [.text "#define ", .element "name" [] [.text "VK_API_VERSION_1_0"], .text " ",
    .element "type" [] [.text "VK_MAKE_API_VERSION"],
    .text (String.ofList ('(' :: (v.arguments ++ [')'])))]

/-- The arguments of a written version are its four numbers in decimal. -/
lemma pieces_arguments : Text.pieces ',' v.arguments =
    [Nat.toDigits 10 v.variant.toNat, ' ' :: Nat.toDigits 10 v.major.toNat,
      ' ' :: Nat.toDigits 10 v.minor.toNat, ' ' :: Nat.toDigits 10 v.patch.toNat] := by
  have single (n : Nat) : ',' ∉ Nat.toDigits 10 n := Numeral.not_mem_toDigits rfl
  have single' (n : Nat) : ',' ∉ ' ' :: Nat.toDigits 10 n :=
    List.not_mem_cons_of_ne_of_not_mem (by decide) (single n)
  rw [arguments, Text.pieces_of_separator (single _), ← List.cons_append,
    Text.pieces_of_separator (single' _), ← List.cons_append, Text.pieces_of_separator (single' _),
    Text.pieces_of_not_mem (single' _)]

/-- The arguments are read as the numbers of the version. -/
lemma mapM_arguments : (Text.pieces ',' v.arguments).mapM (fun a => Numeral.unsigned? 32 (Text.trim a)) =
    some [v.variant.toNat, v.major.toNat, v.minor.toNat, v.patch.toNat] := by
  have solid (n : Nat) : Text.trim (Nat.toDigits 10 n) = Nat.toDigits 10 n :=
    Text.trim_of_solid fun c mem => (Numeral.isNumberCharacter_of_mem_toDigits mem).isBlank
  have behind (n : Nat) : Text.trim (' ' :: Nat.toDigits 10 n) = Nat.toDigits 10 n := by
    have blank : ∀ c ∈ [' '], Text.isBlank c = true :=
      List.forall_iff_forall_mem.1 (by decide)
    rw [← List.singleton_append, Text.trim_blank_append blank, solid]
  have number (n : UInt32) : Numeral.unsigned? 32 (Nat.toDigits 10 n.toNat) = some n.toNat := by
    rw [Numeral.unsigned?_toDigits, if_pos n.toNat_lt]
  simp only [pieces_arguments, List.mapM_cons, solid, behind, number]
  rfl

/-- The text of a written definition is the macro with its arguments. -/
lemma allText_definition : v.definition.allText.toList =
    "#define VK_API_VERSION_1_0 VK_MAKE_API_VERSION".toList ++ '(' :: (v.arguments ++ [')']) := by
  have joined : v.definition.allText = "#define " ++ (("VK_API_VERSION_1_0" ++ "") ++ (" " ++
      (("VK_MAKE_API_VERSION" ++ "") ++ (String.ofList ('(' :: (v.arguments ++ [')'])) ++ "")))) := rfl
  rw [joined]
  simp

/-- The arguments stand between the parentheses behind the name of the macro. -/
lemma macroArguments?_definition : macroArguments? "VK_MAKE_API_VERSION" v.definition.allText =
    some (Text.pieces ',' v.arguments) := by
  have call : Text.afterFirst? "VK_MAKE_API_VERSION".toList v.definition.allText.toList =
      some ('(' :: (v.arguments ++ [')'])) := by
    rw [allText_definition]
    rfl
  have opened : Text.trimStart ('(' :: (v.arguments ++ [')'])) = '(' :: (v.arguments ++ [')']) := rfl
  have start : Text.stripStart? "(" ('(' :: (v.arguments ++ [')'])) = some (v.arguments ++ [')']) := rfl
  have closed : ')' ∉ v.arguments := by
    have single (n : Nat) : ')' ∉ Nat.toDigits 10 n := Numeral.not_mem_toDigits rfl
    simp [arguments, single]
  have inner : (v.arguments ++ [')']).takeWhile (· ≠ ')') = v.arguments := by
    rw [List.takeWhile_append_of_pos]
    · simp
    · intro c mem
      exact decide_eq_true fun same => closed (same ▸ mem)
  rw [macroArguments?, call]
  simp only [Option.bind_eq_bind, Option.bind_some, opened, start, inner]
  rfl

/-- A definition packs any version. -/
lemma apiVersion?_definition : apiVersion? v.definition = some ("VK_API_VERSION_1_0", v) := by
  have named : v.definition.childText? "name" = some "VK_API_VERSION_1_0" := by rfl
  have called : v.definition.childText? "type" = some "VK_MAKE_API_VERSION" := by rfl
  have versioned : Extraction.isVersionName "VK_API_VERSION_1_0" = true := by decide +kernel
  have same (n : UInt32) : n.toNat.toUInt32 = n := UInt32.ofNat_toNat
  rw [apiVersion?, named]
  simp only [Option.bind_eq_bind, Option.bind_some, called, versioned, macroArguments?_definition, mapM_arguments,
    guard, if_pos, same]
  rfl

/-- Four numbers of 32 bits are always packed. Their version can be read back from the word exactly where each
of them fits in its bits, so that two versions whose numbers fit have different words. -/
theorem packed_decodes_iff (v : ApiVersion) :
    (∃ e name, apiVersion? e = some (name, v)) ∧ (Decodes v.packed v ↔ v.Fits) ∧
      ∀ w : ApiVersion, v.Fits → w.Fits → v.packed = w.packed → v = w := by
  refine ⟨⟨_, _, apiVersion?_definition⟩, ⟨Decodes.fits, Fits.decodes⟩, ?_⟩
  intro w fits fits' same
  have decodes := fits.decodes
  rw [same] at decodes
  exact decodes.unique fits'.decodes

/-- The minor version 1024 runs into the major one: what is packed is version 1.0. -/
theorem not_decodes_minor1024 :
    ∃ e e' name v w, apiVersion? e = some (name, v) ∧ apiVersion? e' = some (name, w) ∧
      ¬ Decodes v.packed v ∧ v ≠ w ∧ v.packed = w.packed := by
  refine ⟨_, _, _, ⟨0, 1, 1024, 0⟩, ⟨0, 1, 0, 0⟩, apiVersion?_definition, apiVersion?_definition, ?_, ?_, ?_⟩
  · exact fun decodes => absurd decodes.fits.minor (by decide)
  · decide
  · decide

end CapabilityRegistry.ApiVersion
