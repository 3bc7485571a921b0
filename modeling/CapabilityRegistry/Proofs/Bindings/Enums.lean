import CapabilityRegistry.Proofs.Bindings.Declared
import CapabilityRegistry.Proofs.Growable.Entries
import CapabilityRegistry.Proofs.Mappings.Build
import CapabilityRegistry.Proofs.Numeral

/-!
# Widths of enums

The constants of an enum are held by one integer. That of a bit mask is made as wide as the own values of the
mask need, so that none of these is too large for it. Nothing else is looked at: neither negative values, nor
bits outside of 64, nor the values of other enums, nor what extensions add. `fits_iff` says where all constants
fit all the same. A bit mask holds an added value when one of its own needs 64 bits, and not when none does
(`fits_iff_wide`, `not_fits_narrow`).
-/

namespace CapabilityRegistry

/-! ## Widths of added values -/

namespace Growable
open Numeral (fitsInt64)

variable {reg : Registry} {rules : Rules} {d : EnumDecl} {g : GrowableEnum} {base : Known}
  {found all : List Addition}

/-- The value that an entry of a feature adds fits in 64 bits, as it has been checked. -/
lemma fits_of_ofFeatureEntry {owner : String} {e : EnumExtension} {a : Addition}
    (done : ofFeatureEntry owner e = .ok a) : fitsInt64 a.value = true := by
  unfold ofFeatureEntry at done
  split at done
  next => exact (positioned_eq_ok done).2
  next => cases done

/-- An entry of an extension has a value of its own, or the one of a known name. -/
lemma fits_of_ofExtensionEntry {known : Known} {x : Extension} {e : EnumExtension} {a : Addition}
    (knownFits : ∀ pair ∈ known, fitsInt64 pair.2 = true) (done : ofExtensionEntry known x e = .ok (some a)) :
    fitsInt64 a.value = true := by
  unfold ofExtensionEntry at done
  split at done
  next => cases done
  next =>
    obtain ⟨a', made, same⟩ := map_eq_ok.1 done
    cases same
    exact (positioned_eq_ok made).2
  next =>
    obtain ⟨value, found, same⟩ := Option.map_eq_some_iff.1 (Except.ok.inj done)
    cases same
    exact knownFits _ (mem_of_lookup found)
  next => cases done

/-- If all values so far fit then so do those with the entries of extensions. -/
lemma fits_of_addExtensionEntries {entries : List (Extension × EnumExtension)}
    (baseFits : ∀ pair ∈ base, fitsInt64 pair.2 = true) (foundFits : ∀ a ∈ found, fitsInt64 a.value = true)
    (done : addExtensionEntries base found entries = .ok all) : ∀ a ∈ all, fitsInt64 a.value = true := by
  induction entries generalizing found with
  | nil =>
    cases done
    exact foundFits
  | cons entry entries ih =>
    obtain ⟨a?, read, done⟩ := bind_eq_ok.1 done
    refine ih ?_ done
    intro a mem
    obtain earlier | last := List.mem_append.1 mem
    · exact foundFits a earlier
    · rw [Option.mem_toList] at last
      subst last
      refine fits_of_ofExtensionEntry ?_ read
      intro pair known
      obtain own | added := List.mem_append.1 known
      · exact baseFits pair own
      · obtain ⟨a', mem', rfl⟩ := List.mem_map.1 added
        exact foundFits a' mem'

/-- What is added has 64 bits. -/
lemma fits_of_additions (added : additions reg d = .ok found) : ∀ a ∈ found, fitsInt64 a.value = true := by
  obtain ⟨features, read, added⟩ := bind_eq_ok.1 added
  refine fits_of_addExtensionEntries ?_ ?_ added
  · intro pair own
    obtain ⟨m, _, value⟩ := List.mem_filterMap.1 (List.mem_reverse.1 own)
    obtain ⟨n, number, rfl⟩ := Option.map_eq_some_iff.1 value
    exact Numeral.fits_of_parseInt number
  · intro a mem
    obtain ⟨entry, _, done⟩ := (mem_of_mapM read).1 mem
    exact fits_of_ofFeatureEntry done

/-- All values that an enum has been given fit in 64 bits. -/
lemma fits_of_mem_added (done : collect reg rules = .ok (some g)) {pair : String × Int}
    (mem : pair ∈ g.added) : fitsInt64 pair.2 = true := by
  obtain ⟨d, found, collected⟩ := collected_of_collect done
  rw [collected.added] at mem
  obtain ⟨a, kept, rfl⟩ := List.mem_map.1 (distinctOn_subset mem)
  exact fits_of_additions collected.additions a (List.mem_filter.1 kept).1

end Growable

/-! ## What a representation holds -/

namespace Bindings

/-- The integers of a representation. -/
def EnumRepr.Holds : EnumRepr → Int → Prop
  | signed32, n => -2 ^ 31 ≤ n ∧ n < 2 ^ 31
  | unsigned32, n => 0 ≤ n ∧ n < 2 ^ 32
  | unsigned64, n => 0 ≤ n ∧ n < 2 ^ 64

/-- The integer that a constant denotes. One cannot be shifted to the left by less than nothing. -/
def EnumLiteral.value? : EnumLiteral → Option Int
  | number n => some n
  | shifted bit => if 0 ≤ bit then some (2 ^ bit.toNat) else none

/-- A constant denotes an integer that a representation holds. -/
def EnumLiteral.FitsIn (literal : EnumLiteral) (repr : EnumRepr) : Prop :=
  ∃ n, literal.value? = some n ∧ repr.Holds n

/-- All constants of an enum denote integers that it holds. -/
def EnumBinding.Fits (e : EnumBinding) : Prop :=
  ∀ c ∈ e.constants, c.2.FitsIn e.repr

section holds
variable {n : Int} {repr : EnumRepr}

/-- The bits of a representation that count for a positive integer. -/
def EnumRepr.bits : EnumRepr → Nat
  | signed32 => 31
  | unsigned32 => 32
  | unsigned64 => 64

/-- A number fits if the representation holds it. -/
lemma number_fitsIn_iff : (EnumLiteral.number n).FitsIn repr ↔ repr.Holds n := by
  constructor
  · intro h
    obtain ⟨_, same, holds⟩ := h
    cases same
    exact holds
  · exact fun holds => ⟨n, rfl, holds⟩

/-- For a number that is not negative only the upper bound counts. -/
lemma EnumRepr.holds_iff_of_nonneg (nonneg : 0 ≤ n) : repr.Holds n ↔ n < 2 ^ repr.bits := by
  cases repr with
  | signed32 => exact ⟨And.right, fun lt => ⟨by omega, lt⟩⟩
  | unsigned32 => exact and_iff_right nonneg
  | unsigned64 => exact and_iff_right nonneg

/-- A bit fits when the representation has it. -/
lemma shifted_fitsIn_iff : (EnumLiteral.shifted n).FitsIn repr ↔ 0 ≤ n ∧ n < repr.bits := by
  by_cases nonneg : 0 ≤ n
  · obtain ⟨bit, rfl⟩ := Int.eq_ofNat_of_zero_le nonneg
    have power : (2 : Int) ^ bit < 2 ^ repr.bits ↔ (bit : Int) < repr.bits := by
      exact_mod_cast Nat.pow_lt_pow_iff_right (by decide)
    have positive : (0 : Int) ≤ 2 ^ bit := by exact_mod_cast Nat.zero_le (2 ^ bit)
    rw [and_iff_right nonneg, ← power, ← EnumRepr.holds_iff_of_nonneg positive, EnumLiteral.FitsIn,
      EnumLiteral.value?, if_pos nonneg, Int.toNat_natCast]
    simp only [Option.some.injEq, exists_eq_left']
  · rw [EnumLiteral.FitsIn, EnumLiteral.value?, if_neg nonneg]
    exact iff_of_false nofun fun h => nonneg h.1

end holds

/-! ## Constants of enums -/

/-- The constant of an enumerant that has a number. -/
def literalOf : EnumValue → Int → EnumLiteral
  | .value _, n => .number n
  | .bitPos _, n => .shifted n

/-- A value has a literal if it has a number. -/
lemma enumLiteral?_eq (v : EnumValue) : enumLiteral? v = v.number?.map (literalOf v) := by
  cases v with
  | value text => rfl
  | bitPos text => rfl

/-- The own constants of an enum are those of its enumerants with numbers. -/
lemma mem_ownConstants_iff {members : List EnumMember} {c : String × EnumLiteral} :
    c ∈ members.filterMap (fun m => (enumLiteral? m.value).map (m.name, ·)) ↔
      ∃ m ∈ members, ∃ n, m.value.number? = some n ∧ c = (m.name, literalOf m.value n) := by
  simp only [List.mem_filterMap, enumLiteral?_eq, Option.map_map, Option.map_eq_some_iff, Function.comp,
    eq_comm (a := c)]

/-! ## Where constants fit -/

/-- The numbers that an enum has room for among its own: for values, and for bits. -/
def RoomFor (kind : String) : EnumValue → Int → Prop
  | .value _, n => if kind = "bitmask" then 0 ≤ n else -2 ^ 31 ≤ n ∧ n < 2 ^ 31
  | .bitPos _, n => 0 ≤ n ∧ n < if kind = "bitmask" then 64 else 31

/-- The numbers that an enum has room for among those that are added. A bit mask has room for a long one
only if it has a long one of its own. -/
def RoomForAdded (d : EnumDecl) (n : Int) : Prop :=
  if d.kind = "bitmask" then 0 ≤ n ∧ (n < 2 ^ 32 ∨ ∃ m ∈ d.members, isWide m.value = true)
  else -2 ^ 31 ≤ n ∧ n < 2 ^ 31

section room
variable {d : EnumDecl} {m : EnumMember} {n : Int} {growable : Option GrowableEnum}

/-- An enum that is no mask is signed. -/
lemma enumRepr_of_enum (kind : d.kind ≠ "bitmask") : enumRepr d = .signed32 :=
  if_pos kind

/-- A bit mask has 64 bits when one of its own values needs them. -/
lemma enumRepr_of_mask (kind : d.kind = "bitmask") :
    (enumRepr d = .unsigned64 ∧ ∃ m ∈ d.members, isWide m.value = true) ∨
      enumRepr d = .unsigned32 ∧ ∀ m ∈ d.members, isWide m.value = false := by
  rw [enumRepr, if_neg (not_not_intro kind)]
  split
  next wide => exact .inl ⟨rfl, List.any_eq_true.1 wide⟩
  next narrow =>
    refine .inr ⟨rfl, fun m member => ?_⟩
    rw [List.any_eq_true] at narrow
    exact Bool.eq_false_iff.2 fun wide => narrow ⟨m, member, wide⟩

/-- A value that does not ask for 64 bits is below the 32nd power of two. -/
lemma value_lt_of_narrow {text : String} (narrow : isWide (.value text) = false)
    (number : (EnumValue.value text).number? = some n) : n < 2 ^ 32 := by
  rw [isWide, number, Option.any_some, decide_eq_false_iff_not] at narrow
  omega

/-- A bit that does not ask for 64 bits is one of the first 32. -/
lemma bit_lt_of_narrow {text : String} (narrow : isWide (.bitPos text) = false)
    (number : (EnumValue.bitPos text).number? = some n) : n < 32 := by
  rw [isWide, number, Option.any_some, decide_eq_false_iff_not] at narrow
  omega

/-- An own value of a bit mask is never too large for it. -/
lemma holds_value_iff {name text : String} (member : ⟨name, .value text⟩ ∈ d.members)
    (number : (EnumValue.value text).number? = some n) :
    (enumRepr d).Holds n ↔ RoomFor d.kind (.value text) n := by
  rw [RoomFor]
  split
  next kind =>
    obtain ⟨repr, _⟩ | ⟨repr, narrow⟩ := enumRepr_of_mask kind
    · have fits : n < 2 ^ 63 := (Numeral.fitsInt64_iff.1 (Numeral.fits_of_parseInt number)).2
      rw [repr]
      exact ⟨And.left, fun nonneg => ⟨nonneg, by omega⟩⟩
    · have fits := value_lt_of_narrow (narrow _ member) number
      rw [repr]
      exact ⟨And.left, fun nonneg => ⟨nonneg, fits⟩⟩
  next kind => rw [enumRepr_of_enum kind, EnumRepr.Holds]

/-- A bit mask has each of its own bits that is one of 64. -/
lemma hasBit_iff {name text : String} (member : ⟨name, .bitPos text⟩ ∈ d.members)
    (number : (EnumValue.bitPos text).number? = some n) :
    (0 ≤ n ∧ n < (enumRepr d).bits) ↔ RoomFor d.kind (.bitPos text) n := by
  rw [RoomFor]
  split
  next kind =>
    obtain ⟨repr, _⟩ | ⟨repr, narrow⟩ := enumRepr_of_mask kind
    · rw [repr]
      rfl
    · have fits := bit_lt_of_narrow (narrow _ member) number
      rw [repr, EnumRepr.bits]
      omega
  next kind =>
    rw [enumRepr_of_enum kind]
    rfl

/-- A constant of the enum itself fits where there is room for its number. -/
lemma own_fitsIn_iff (member : m ∈ d.members) (number : m.value.number? = some n) :
    (literalOf m.value n).FitsIn (enumRepr d) ↔ RoomFor d.kind m.value n := by
  obtain ⟨name, value⟩ := m
  cases value with
  | value text => rw [← holds_value_iff member number, ← number_fitsIn_iff, literalOf]
  | bitPos text => rw [← hasBit_iff member number, ← shifted_fitsIn_iff, literalOf]

/-- An added value of 64 bits fits where there is room for it. -/
lemma added_fitsIn_iff (fits : Numeral.fitsInt64 n = true) :
    (EnumLiteral.number n).FitsIn (enumRepr d) ↔ RoomForAdded d n := by
  have fits := (Numeral.fitsInt64_iff.1 fits).2
  rw [number_fitsIn_iff, RoomForAdded]
  split
  next kind =>
    obtain ⟨repr, wide⟩ | ⟨repr, narrow⟩ := enumRepr_of_mask kind
    · rw [repr]
      exact ⟨fun holds => ⟨holds.1, .inr wide⟩, fun room => ⟨room.1, by omega⟩⟩
    · have none : ¬ ∃ m ∈ d.members, isWide m.value = true := by
        rintro ⟨m, member, wide⟩
        cases (narrow m member).symm.trans wide
      rw [repr, or_iff_left none]
      rfl
  next kind => rw [enumRepr_of_enum kind, EnumRepr.Holds]

/-- The constants of an enum fit where there is room for all numbers. -/
lemma fits_enumBinding_iff
    (added : ∀ pair ∈ Mappings.addedTo growable d, Numeral.fitsInt64 pair.2 = true) :
    (enumBinding growable d).Fits ↔
      (∀ m ∈ d.members, ∀ n, m.value.number? = some n → RoomFor d.kind m.value n) ∧
        ∀ pair ∈ Mappings.addedTo growable d, RoomForAdded d pair.2 := by
  simp only [EnumBinding.Fits, enumBinding, List.mem_append, or_imp, forall_and]
  apply and_congr
  · constructor
    · intro fit m member n number
      have constant := fit (m.name, literalOf m.value n) (mem_ownConstants_iff.2 ⟨m, member, n, number, rfl⟩)
      exact (own_fitsIn_iff member number).1 constant
    · intro room c constant
      obtain ⟨m, member, n, number, rfl⟩ := mem_ownConstants_iff.1 constant
      exact (own_fitsIn_iff member number).2 (room m member n number)
  · simp only [List.mem_map, forall_exists_index, and_imp, forall_apply_eq_imp_iff₂]
    exact forall₂_congr fun pair mem => added_fitsIn_iff (added pair mem)

end room

/-- What is added to an enum has 64 bits. -/
lemma fits_of_mem_addedTo {reg : Registry} {rules : Rules} {growable : Option GrowableEnum} {d : EnumDecl}
    (collected : Growable.collect reg rules = .ok growable) :
    ∀ pair ∈ Mappings.addedTo growable d, Numeral.fitsInt64 pair.2 = true := by
  intro pair mem
  unfold Mappings.addedTo at mem
  split at mem
  next g =>
    split at mem
    next => exact Growable.fits_of_mem_added collected (List.mem_filter.1 mem).1
    next => cases mem
  next => cases mem

/-- All constants of all enums that are bound fit exactly where each of these enums has room for the numbers of
its own enumerants and for those that are added. -/
theorem fits_iff {reg : Registry} {rules : Rules} {model : Model} {b : Bindings}
    (made : Model.ofRegistry reg rules = .ok model) (done : ofModel model = .ok b) :
    (∀ e ∈ b.enums, e.Fits) ↔
      ∀ d ∈ reg.enums, model.closure.usesEnum d.name = true →
        (∀ m ∈ d.members, ∀ n, m.value.number? = some n → RoomFor d.kind m.value n) ∧
          ∀ pair ∈ Mappings.addedTo model.mappings.growable d, RoomForAdded d pair.2 := by
  have made := Model.made_of_ofRegistry made
  have collected := (Mappings.built_of_build made.mappings).growable
  rw [(bound_of_ofModel done).enums, made.registry, List.forall_mem_map]
  constructor
  · intro fit d listed used
    exact (fits_enumBinding_iff (fits_of_mem_addedTo collected)).1 (fit d (List.mem_filter.2 ⟨listed, used⟩))
  · intro room d kept
    obtain ⟨listed, used⟩ := List.mem_filter.1 kept
    exact (fits_enumBinding_iff (fits_of_mem_addedTo collected)).2 (room d listed used)

/-- A bit mask of one own bit, to which an extension adds the first value of a block behind 32 bits. -/
def tileFlags (bit : String) : EnumDecl where
  name := "VkTileFlagBits"
  kind := "bitmask"
  members := [⟨"VK_TILE_OWN_BIT", .bitPos bit⟩]

/-- A registry with the mask as the only enum. -/
def tiled (bit : String) : Registry where
  structs := [
    { name := "VkPhysicalDeviceTileFeatures", members := [Closure.bareMember "flags" "VkTileFlagBits" 0] }]
  enums := [tileFlags bit]
  extensions := [
    { name := "VK_EXT_tile", number := some 3294969, supported := "vulkan",
      requires := ⟨[], [{ name := "VK_TILE_FAR_BIT_EXT", enumName := "VkTileFlagBits", offset := some 0 }]⟩ }]

/-- The rules that track the mask. -/
def tileRules : Rules where
  growableEnum := "VkTileFlagBits"

/-- The model of the registry has one enum with one value added, and bindings. -/
lemma tiled_bindings {bit : String} (either : bit = "0" ∨ bit = "40") :
    ∃ model b, Model.ofRegistry (tiled bit) tileRules = .ok model ∧ ofModel model = .ok b ∧
      b.enums = [enumBinding model.mappings.growable (tileFlags bit)] ∧
        Mappings.addedTo model.mappings.growable (tileFlags bit) = [("VK_TILE_FAR_BIT_EXT", 4294968000)] := by
  let reg := tiled bit
  let disabled := DisabledSet.compute reg tileRules
  let closure : DependencyClosure :=
    { order := [⟨"VkPhysicalDeviceTileFeatures", false⟩], enums := ["VkTileFlagBits"] }
  have closed : DependencyClosure.compute reg disabled tileRules = .ok closure := by
    rcases either with rfl | rfl <;> decide +kernel
  obtain ⟨m, built, added⟩ : ∃ m, Mappings.build reg disabled closure tileRules = .ok m ∧
      Mappings.addedTo m.growable (tileFlags bit) = [("VK_TILE_FAR_BIT_EXT", 4294968000)] := by
    refine ⟨_, rfl, ?_⟩
    rcases either with rfl | rfl <;> decide +kernel
  let model : Model := ⟨tileRules, reg, disabled, closure, m⟩
  obtain ⟨b, done⟩ : ∃ b, ofModel model = .ok b := ⟨_, rfl⟩
  have enums := (bound_of_ofModel done).enums
  refine ⟨model, b, Model.ofRegistry_of_parts closed built, done, ?_, added⟩
  rw [enums]
  rfl

/-- With an own bit behind 32 bits the mask holds the added value. -/
theorem fits_iff_wide :
    ∃ model b, Model.ofRegistry (tiled "40") tileRules = .ok model ∧ ofModel model = .ok b ∧
      b.enums ≠ [] ∧ ∀ e ∈ b.enums, e.Fits := by
  obtain ⟨model, b, made, done, enums, added⟩ := tiled_bindings (.inr rfl)
  refine ⟨model, b, made, done, by simp [enums], (fits_iff made done).2 ?_⟩
  intro d listed _
  cases List.mem_singleton.1 listed
  rw [added]
  constructor
  · intro m member n number
    cases List.mem_singleton.1 member
    have forty : n = 40 := Option.some.inj (number.symm.trans (by decide +kernel))
    subst forty
    exact ⟨by decide, by decide⟩
  · intro pair mem
    cases List.mem_singleton.1 mem
    exact ⟨by decide, .inr ⟨_, List.mem_cons_self, by decide +kernel⟩⟩

/-- With no own bit behind 32 bits, the mask has 32 and does not hold the added value. -/
theorem not_fits_narrow :
    ∃ model b, Model.ofRegistry (tiled "0") tileRules = .ok model ∧ ofModel model = .ok b ∧
      ∃ e ∈ b.enums, e.repr = .unsigned32 ∧ ("VK_TILE_FAR_BIT_EXT", .number 4294968000) ∈ e.constants ∧
        ¬ e.Fits := by
  obtain ⟨model, b, made, done, enums, added⟩ := tiled_bindings (.inl rfl)
  have listed : enumBinding model.mappings.growable (tileFlags "0") ∈ b.enums := by
    rw [enums]
    exact List.mem_singleton_self _
  have narrow : enumRepr (tileFlags "0") = .unsigned32 := by decide +kernel
  have constant : ("VK_TILE_FAR_BIT_EXT", EnumLiteral.number 4294968000) ∈
      (enumBinding model.mappings.growable (tileFlags "0")).constants := by
    rw [enumBinding, added]
    exact List.mem_append_right _ List.mem_cons_self
  refine ⟨model, b, made, done, _, listed, narrow, constant, fun fits => ?_⟩
  obtain ⟨n, same, holds⟩ := fits _ constant
  cases same
  rw [enumBinding, narrow] at holds
  exact absurd holds.2 (by decide)

end Bindings

end CapabilityRegistry
