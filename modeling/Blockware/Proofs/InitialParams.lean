import Blockware.Definition
import Blockware.Proofs.Dict
import Blockware.Proofs.Template

/-!
# Parameters of new blocks

A new block of a definition has a value for each input. Where no default is declared the value is
made up, and a value that is made up always fits the input; a default that is declared need not.

- `Input.DefaultsToNoNumber`, `Input.DefaultsToNoOption`: declared defaults that do not fit.
- `Definition.checkValue_initial`: what is found about the value of one input.
- `Definition.get?_initialParams`, `Definition.perm_keys_initialParams`: the parameters are those
  that the inputs declare.
- `Definition.FillsIn`: a template in which every placeholder has given way to the value of an
  input.
- `initial_params_fit_their_definition`: which parameters a new block has, what is found about them,
  and that templates are filled in with them.
-/

namespace Blockware

open Template (Piece)

/-! ### Values -/

/-- A value means no number if it is none and no text that denotes one. -/
theorem Param.numeral?_eq_none_iff {p : Param} :
    p.numeral? = none ↔
      p.number? = none ∧ ∀ s ∈ p.string?, Numeral.read? (Text.trim s) = none := by
  rw [numeral?]
  cases p.number? with
  | some x => simp
  | none => simp [Option.bind_eq_none_iff]

namespace Input

/-- The input asks for a number, and its declared default is neither one nor a text that denotes
one. -/
def DefaultsToNoNumber (i : Input) : Prop :=
  i.kind = .number ∧ ∃ p ∈ i.default, p.number? = none ∧
    ∀ s ∈ p.string?, Numeral.read? (Text.trim s) = none

instance : DecidablePred DefaultsToNoNumber := fun _ => inferInstanceAs (Decidable (_ ∧ _))

/-- The input asks for one of some options, and its declared default is none of them. -/
def DefaultsToNoOption (i : Input) : Prop :=
  i.kind = .select ∧ i.options ≠ [] ∧ ∃ p ∈ i.default, p.display ∉ i.options

instance : DecidablePred DefaultsToNoOption := fun _ => inferInstanceAs (Decidable (_ ∧ _))

theorem initial_of_default {i : Input} {p : Param} (h : i.default = some p) : i.initial = p := by
  rw [initial, h]

theorem defaultsToNoNumber_iff {i : Input} {p : Param} (h : i.default = some p) :
    i.DefaultsToNoNumber ↔ i.kind = .number ∧ p.numeral? = none := by
  simp [DefaultsToNoNumber, h, Param.numeral?_eq_none_iff]

theorem defaultsToNoOption_iff {i : Input} {p : Param} (h : i.default = some p) :
    i.DefaultsToNoOption ↔ i.kind = .select ∧ i.options ≠ [] ∧ p.display ∉ i.options := by
  simp [DefaultsToNoOption, h]

end Input

namespace Definition

variable {d : Definition}

/-- A value that is made up fits. -/
theorem checkValue_initial_of_no_default (d : Definition) {i : Input} (h : i.default = none) :
    d.checkValue i i.initial = [] := by
  obtain ⟨name, kind, label, default, options⟩ := i
  obtain rfl : default = none := h
  cases kind with
  | text => rfl
  | number => rfl
  | select =>
    cases options with
    | nil => rfl
    | cons first rest => simp [checkValue, Input.initial, Param.display]

/-- What is found about the value of one input. -/
theorem checkValue_initial (d : Definition) (i : Input) :
    d.checkValue i i.initial =
      (if i.DefaultsToNoNumber then [.notNumber d.id i.name i.initial.display] else []) ++
        if i.DefaultsToNoOption then [.notOption d.id i.name i.initial.display i.options]
        else [] := by
  cases given : i.default with
  | none =>
    have number : ¬ i.DefaultsToNoNumber := fun ⟨_, p, hp, _⟩ => by simp [given] at hp
    have option : ¬ i.DefaultsToNoOption := fun ⟨_, _, p, hp, _⟩ => by simp [given] at hp
    rw [checkValue_initial_of_no_default d given, if_neg number, if_neg option]
    rfl
  | some p =>
    rw [Input.initial_of_default given, checkValue]
    simp only [Input.defaultsToNoNumber_iff given, Input.defaultsToNoOption_iff given]
    cases i.kind with
    | text => rfl
    | number => cases p.numeral? <;> simp
    | select =>
      by_cases choices : i.options = []
      · simp [choices]
      · by_cases chosen : p.display ∈ i.options <;> simp [choices, chosen]

/-! ### Parameters -/

/-- Where no name is declared twice, an input has its own value. -/
theorem get?_initialParams (distinct : (d.inputs.map Input.name).Nodup) {i : Input}
    (hi : i ∈ d.inputs) : d.initialParams.get? i.name = some i.initial := by
  obtain ⟨before, after, split⟩ := List.append_of_mem hi
  rw [split, List.map_append, List.map_cons] at distinct
  have last : ∀ e ∈ after.map fun i => (i.name, i.initial), e.1 ≠ i.name := by
    rw [List.forall_mem_map]
    intro other later same
    have notLater : i.name ∉ after.map Input.name :=
      (List.nodup_cons.mp (List.nodup_append.mp distinct).2.1).1
    exact notLater (List.mem_map.mpr ⟨other, later, same⟩)
  rw [initialParams, split, List.map_append, List.map_cons]
  exact Dict.get?_ofList_of_last i.initial last

/-- The parameters are those that the inputs declare. -/
theorem perm_keys_initialParams (distinct : (d.inputs.map Input.name).Nodup) :
    d.initialParams.keys.Perm (d.inputs.map Input.name) := by
  have ordered : Dict.Ordered d.initialParams := Dict.ordered_ofList _
  have nodup : d.initialParams.keys.Nodup := List.pairwise_map.mpr (ordered.imp ne_of_lt)
  refine (List.perm_ext_iff_of_nodup nodup distinct).mpr fun name => ?_
  constructor
  · intro bound
    obtain ⟨e, he, rfl⟩ := List.mem_map.mp bound
    obtain ⟨i, hi, rfl⟩ := List.mem_map.mp (Dict.mem_of_mem_ofList he)
    exact List.mem_map_of_mem hi
  · intro declared
    obtain ⟨i, hi, rfl⟩ := List.mem_map.mp declared
    exact List.mem_map_of_mem (Dict.mem_of_get? (get?_initialParams distinct hi))

/-- What is found about all values is what is found about each of them. -/
theorem check_initialParams (distinct : (d.inputs.map Input.name).Nodup) :
    d.check d.initialParams = d.inputs.flatMap fun i => d.checkValue i i.initial := by
  have declared : (d.initialParams.keys.filter fun key => !d.inputs.any fun i => i.name == key) =
      [] := by
    rw [List.filter_eq_nil_iff]
    intro key bound
    obtain ⟨i, hi, rfl⟩ := List.mem_map.mp ((perm_keys_initialParams distinct).mem_iff.mp bound)
    simpa using ⟨i, hi, rfl⟩
  rw [check, declared, List.map_nil, List.append_nil]
  refine List.flatMap_congr fun i hi => ?_
  rw [get?_initialParams distinct hi]

/-! ### Findings -/

/-- Findings of which there is one for each input of some kind are about the inputs of that kind. -/
theorem filter_flatMap_checkValue {keep : InputFinding → Bool} {wrong : Input → Prop}
    [DecidablePred wrong] {finding : Input → InputFinding}
    (single : ∀ i, (d.checkValue i i.initial).filter keep = if wrong i then [finding i] else [])
    (inputs : List Input) :
    (inputs.flatMap fun i => d.checkValue i i.initial).filter keep =
      (inputs.filter fun i => wrong i).map finding := by
  induction inputs with
  | nil => rfl
  | cons i rest ih =>
    rw [List.flatMap_cons, List.filter_append, ih, single, List.filter_cons]
    by_cases found : wrong i <;> simp [found]

/-- The errors are about the inputs that ask for a number and default to none. -/
theorem errors_initial (d : Definition) (inputs : List Input) :
    (inputs.flatMap fun i => d.checkValue i i.initial).filter InputFinding.isError =
      (inputs.filter fun i => i.DefaultsToNoNumber).map fun i =>
        .notNumber d.id i.name i.initial.display := by
  refine filter_flatMap_checkValue (fun i => ?_) inputs
  rw [checkValue_initial, List.filter_append]
  split <;> split <;> rfl

/-- The warnings are about the inputs that ask for an option and default to none. -/
theorem warnings_initial (d : Definition) (inputs : List Input) :
    ((inputs.flatMap fun i => d.checkValue i i.initial).filter fun f => !f.isError) =
      (inputs.filter fun i => i.DefaultsToNoOption).map fun i =>
        .notOption d.id i.name i.initial.display i.options := by
  refine filter_flatMap_checkValue (fun i => ?_) inputs
  rw [checkValue_initial, List.filter_append]
  split <;> split <;> rfl

/-! ### Templates -/

/-- All placeholders of a template have the name of an input. -/
def Declares (d : Definition) (template : String) : Prop :=
  ∀ start name, Template.Occurs template.toList start name →
    ∃ i ∈ d.inputs, i.name = String.ofList name

/-- What stands for a piece of a template: the text of the value of an input of this name for a
placeholder, and a character for itself. -/
def Replaces (d : Definition) : Piece → List Char → Prop
  | .char c, part => part = [c]
  | .hole name, part =>
    ∃ i ∈ d.inputs, i.name = String.ofList name ∧ part = i.initial.display.toList

/-- A text is a template of which no placeholder is left. -/
def FillsIn (d : Definition) (template text : String) : Prop :=
  ∃ ps parts, Template.IsSplit template.toList ps ∧ List.Forall₂ d.Replaces ps parts ∧
    text.toList = parts.flatten

theorem fillsIn_fill (distinct : (d.inputs.map Input.name).Nodup) {template : String}
    (declared : d.Declares template) :
    d.FillsIn template (Template.fill template d.initialParams) := by
  have split : Template.IsSplit template.toList (Template.pieces template) :=
    Template.isSplit_scan template.toList
  refine ⟨_, (Template.pieces template).map (Template.fillPiece d.initialParams), split, ?_, ?_⟩
  · rw [List.forall₂_map_right_iff, List.forall₂_same]
    intro piece there
    cases piece with
    | char c => exact Template.fillPiece_char d.initialParams c
    | hole name =>
      obtain ⟨start, stands⟩ := split.exists_occurs there
      obtain ⟨i, hi, named⟩ := declared start name stands
      refine ⟨i, hi, named, ?_⟩
      rw [Template.fillPiece_hole, ← named, get?_initialParams distinct hi]
  · rw [Template.toList_fill, List.flatMap_def]

/-- Where all placeholders are declared, none is left. -/
theorem rel_fillsIn (distinct : (d.inputs.map Input.name).Nodup) {template? : Option String}
    (declared : ∀ t ∈ template?, d.Declares t) :
    Option.Rel d.FillsIn template? (template?.map fun t => Template.fill t d.initialParams) := by
  cases template? with
  | none => exact .none
  | some t => exact .some (fillsIn_fill distinct (declared t rfl))

end Definition

/-- **Parameters of a new block**, for any definition that declares no name twice. They are the
declared names, each with the value of its input. Of all that can be found about parameters, there
is an error for each input that asks for a number but has a declared default that is none, and a
warning for each input that asks for one of some options but has a declared default that is none of
them; both are in the order of the inputs, and there is nothing else. And if all placeholders of a
template have the name of an input, each of them gives way to the value of that input. -/
theorem initial_params_fit_their_definition (d : Definition)
    (distinct : (d.inputs.map Input.name).Nodup) :
    let params := d.initialParams
    let findings := d.check params
    let preview := d.preview params
    (params.keys.Perm (d.inputs.map Input.name) ∧
      ∀ i ∈ d.inputs, params.get? i.name = some i.initial) ∧
    (findings.filter InputFinding.isError =
        (d.inputs.filter fun i => i.DefaultsToNoNumber).map (fun i =>
          .notNumber d.id i.name i.initial.display) ∧
      findings.filter (fun f => !f.isError) =
        (d.inputs.filter fun i => i.DefaultsToNoOption).map (fun i =>
          .notOption d.id i.name i.initial.display i.options)) ∧
    ((∀ t ∈ d.code.setupTemplate, d.Declares t) →
      Option.Rel d.FillsIn d.code.setupTemplate preview.setup) ∧
    ((∀ t ∈ d.code.codeTemplate, d.Declares t) →
      Option.Rel d.FillsIn d.code.codeTemplate preview.code) := by
  intro params findings preview
  have found : findings = d.inputs.flatMap fun i => d.checkValue i i.initial :=
    Definition.check_initialParams distinct
  refine ⟨⟨Definition.perm_keys_initialParams distinct,
    fun i hi => Definition.get?_initialParams distinct hi⟩, ⟨?_, ?_⟩, ?_, ?_⟩
  · rw [found]
    exact Definition.errors_initial d d.inputs
  · rw [found]
    exact Definition.warnings_initial d d.inputs
  · exact Definition.rel_fillsIn distinct
  · exact Definition.rel_fillsIn distinct

/-- Values that are made up and declared ones, of which two do not fit. -/
theorem initial_params_of_mixed_inputs :
    let inputs : List Input :=
      [⟨"text", .text, "", none, []⟩, ⟨"number", .number, "", none, []⟩,
        ⟨"pick", .select, "", none, ["a", "b"]⟩, ⟨"rate", .number, "", some (.string " 1e3 "), []⟩,
        ⟨"flag", .number, "", some (.boolean true), []⟩,
        ⟨"mode", .select, "", some (.integer 3), ["1", "2"]⟩]
    let template := "run($\x7brate\x7d, $\x7bpick\x7d);"
    let d : Definition :=
      { id := "fan", label := "", category := .loop, color := "", description := none, inputs
        code := { codeTemplate := some template } }
    (d.inputs.map Input.name).Nodup ∧
    (d.check d.initialParams).filter InputFinding.isError = [.notNumber "fan" "flag" "true"] ∧
    ((d.check d.initialParams).filter fun f => !f.isError) =
      [.notOption "fan" "mode" "3" ["1", "2"]] ∧
    (d.Declares template ∧ d.FillsIn template "run( 1e3 , a);") := by
  intro inputs template d
  have distinct : (d.inputs.map Input.name).Nodup := by decide
  obtain ⟨-, ⟨errors, warnings⟩, -, code⟩ := initial_params_fit_their_definition d distinct
  have pieces : (Template.pieces template).filterMap Piece.name? = ["rate", "pick"] := by decide
  have declared : d.Declares template := by
    intro start name stands
    obtain ⟨before, after, split, -⟩ :=
      (Template.isSplit_scan template.toList).finds start name stands
    have named : String.ofList name ∈ (Template.pieces template).filterMap Piece.name? := by
      rw [Template.pieces, split, List.mem_filterMap]
      exact ⟨.hole name, List.mem_append_cons_self, rfl⟩
    rw [pieces] at named
    have there : ∀ name ∈ ["rate", "pick"], ∃ i ∈ d.inputs, i.name = name := by decide
    exact there _ named
  refine ⟨distinct, ?_, ?_, declared, ?_⟩
  · exact errors.trans (by decide)
  · exact warnings.trans (by decide)
  · have filled : Option.Rel d.FillsIn (some template) (d.preview d.initialParams).code := by
      refine code fun t given => ?_
      cases given
      exact declared
    have text : (d.preview d.initialParams).code = some "run( 1e3 , a);" := by decide
    rw [text] at filled
    cases filled with
    | some h => exact h

end Blockware
