import CapabilityRegistry.Bindings.Printer
import CapabilityRegistry.Proofs.Text

/-!
# Spelling of fields

The text of a type has its base type inside, with a qualifier in front for each pointer and brackets around
for each array (`spells_render`). Each field has its line in the block of its struct, which the text of the bindings
has in one piece (`writes_field`).
-/

namespace CapabilityRegistry.Bindings

/-! ## Texts of types -/

/-- A text spells a base type with qualifiers and brackets around it, the outermost ones first. Lengths are
those of the brackets outside all qualifiers. -/
inductive Spells (base : String) : List String → List String → String → Prop where
  | base : Spells base [] [] base
  | toConst {qualifiers lengths : List String} {text : String} :
    Spells base qualifiers lengths text →
    Spells base ("*const" :: qualifiers) [] ("*const " ++ text)
  | toMutable {qualifiers lengths : List String} {text : String} :
    Spells base qualifiers lengths text →
    Spells base ("*mut" :: qualifiers) [] ("*mut " ++ text)
  | array {qualifiers lengths : List String} {text length : String} :
    Spells base qualifiers lengths text →
    Spells base qualifiers (length :: lengths) ("[" ++ text ++ "; " ++ length ++ "]")

namespace FieldType

/-- The type inside the pointers and arrays of a field. -/
def baseName : FieldType → String
  | base name => name
  | pointer _ target => target.baseName
  | array item _ => item.baseName

/-- The pointers around the type inside a field. -/
def pointerCount : FieldType → Nat
  | base _ => 0
  | pointer _ target => target.pointerCount + 1
  | array item _ => item.pointerCount

/-- The dimensions of an array, the outermost first. -/
def lengths : FieldType → List ArrayLength
  | base _ => []
  | pointer _ _ => []
  | array item length => length :: item.lengths

/-- What the pointers around the type inside a field are spelled with, the outermost first. -/
def qualifiers : FieldType → List String
  | base _ => []
  | pointer toConst target => (if toConst then "*const" else "*mut") :: target.qualifiers
  | array item _ => item.qualifiers

variable {type : FieldType}

/-- Each pointer has a qualifier. -/
lemma length_qualifiers : type.qualifiers.length = type.pointerCount := by
  induction type with
  | base => rfl
  | pointer toConst target ih => rw [qualifiers, pointerCount, List.length_cons, ih]
  | array item length ih => exact ih

/-- The text of a type has all its parts, each in its place. -/
lemma spells_render :
    Spells type.baseName type.qualifiers (type.lengths.map ArrayLength.render) type.render := by
  induction type with
  | base name => exact .base
  | pointer toConst target ih =>
    cases toConst with
    | true => exact .toConst ih
    | false => exact .toMutable ih
  | array item length ih => exact .array ih

end FieldType

/-! ## Lines of fields -/

/-- The line of a field with the text of its type. -/
def fieldLine (name text : String) : String :=
  "    pub " ++ name ++ ": " ++ text ++ ","

/-- The text of bindings has a field in the block of its struct, with its base type inside the text of the type. -/
structure Writes (b : Bindings) (s : StructBinding) (field : String × FieldType) : Prop where
  line : fieldLine field.1 field.2.render ∈ s.lines
  lines : s.lines <:+: b.lines
  text : (Text.unlines s.lines).toList <:+: b.render.toList
  spells : Spells field.2.baseName field.2.qualifiers (field.2.lengths.map ArrayLength.render) field.2.render

section lines
variable {b : Bindings} {s : StructBinding} {field : String × FieldType}

/-- Each field of a struct has its line in the block of the struct. -/
lemma fieldLine_mem_lines (listed : field ∈ s.fields) : fieldLine field.1 field.2.render ∈ s.lines := by
  have some : s.fields.isEmpty = false := by
    rw [List.isEmpty_eq_false_iff_exists_mem]
    exact ⟨field, listed⟩
  simp only [StructBinding.lines, some, Bool.false_eq_true, if_false, List.mem_append]
  exact .inr (.inl (.inr (List.mem_map.2 ⟨field, listed, rfl⟩)))

/-- The block of each struct is among the lines of the bindings, line after line. -/
lemma lines_infix_lines (listed : s ∈ b.structs) : s.lines <:+: b.lines := by
  have block : s.lines <:+: b.structs.flatMap (·.lines) := by
    rw [List.flatMap_def]
    exact List.infix_of_mem_flatten (List.mem_map_of_mem listed)
  have blocks : b.structs.flatMap (·.lines) <:+: b.lines :=
    (List.infix_append _ _ _).trans (List.prefix_append _ _).isInfix
  exact block.trans blocks

/-- All fields of the structs of the bindings are written. -/
lemma writes_field (listed : s ∈ b.structs) (held : field ∈ s.fields) : b.Writes s field :=
  ⟨fieldLine_mem_lines held, lines_infix_lines listed, Text.unlines_infix (lines_infix_lines listed),
    FieldType.spells_render⟩

end lines

end CapabilityRegistry.Bindings
