import Blockware.Proofs.Stored.Detours
import Blockware.Proofs.Stored.RoundTrip

/-!
# Bodies of older blocks

An older block has its body among its parameters. The value there is read like a body of its own,
and the parameter is gone afterwards.

- `Block.Draft.given`: the parameters that are given for a block.
- `Block.read_eq_lift`, `Block.read_eq_of_body`: the block that is read where a parameter stands in
  for the body, and where there is a body.
- `older_body_is_read_as_current`: it has the same blocks as if they had been a body of its own.
- `older_value_is_kept_iff_read`: a value that is no list of blocks is gone as well.
-/

namespace Blockware

open Json (Node Fault)

namespace Block

/-! ### The block that is read -/

/-- The parameters that are given for a block. -/
def Draft.given (d : Draft) : Params := (d.params.getD none).getD []

/-- The block of a draft without a body. -/
theorem ofDraft_of_bodiless (body : Json → Option (List Block)) (fresh : Nat) {d : Draft}
    (bodiless : d.inner.getD none = none) :
    ofDraft body fresh d =
      { id := d.id.getD (freshId fresh)
        type := d.type.getD ""
        params := (lift body d.given).1
        inner := (lift body d.given).2 } := by
  unfold ofDraft
  rw [bodiless]
  rfl

/-- The block that is read where a parameter stands in for the body, be it read as one or not. -/
theorem read_eq_lift {n : Node} {fresh : Nat} {d : Draft} {v : Json}
    (wire : (record (readList · (fresh + 1))).read {} n = .ok d)
    (bodiless : d.inner.getD none = none)
    (older : d.given.get? innerKey = some (Param.ofJson v)) :
    read n fresh = .ok
      { id := d.id.getD (freshId fresh)
        type := d.type.getD ""
        params := d.given.erase innerKey
        inner := (v.read (readList · (fresh + 1))).toOption.getD [] } := by
  have detour : ((Param.ofJson v).toJson.read (readList · (fresh + 1))).toOption =
      (v.read (readList · (fresh + 1))).toOption :=
    toOption_readList_detour v (fresh + 1)
  rw [read_eq, wire]
  refine congrArg Except.ok ((ofDraft_of_bodiless _ fresh bodiless).trans ?_)
  simp only [lift, older, detour]

/-- Each parameter is given once. -/
theorem ordered_given {n : Node} {fresh : Nat} {d : Draft}
    (h : (record (readList · fresh)).read {} n = .ok d) : Dict.Ordered d.given := by
  have wf : d.WellFormed := wellFormed_of_read_record (fun _ _ => wellFormed_of_readList) h
  unfold Draft.given
  rcases given : d.params with _ | _ | params
  · exact Dict.ordered_nil
  · exact Dict.ordered_nil
  · exact (wf.params params given).ordered

/-- The block that is read where there is a body. -/
theorem read_eq_of_body {n : Node} {fresh : Nat} {d : Draft} {blocks : List Block}
    (wire : (record (readList · (fresh + 1))).read {} n = .ok d)
    (body : d.inner = some (some blocks)) :
    read n fresh = .ok
      { id := d.id.getD (freshId fresh)
        type := d.type.getD ""
        params := d.given
        inner := blocks } := by
  rw [read_eq, wire]
  refine congrArg Except.ok ?_
  unfold ofDraft
  rw [body]
  rfl

/-! ### Blocks in stored data -/

/-- A block in stored data, with further members. -/
def wire (id type : String) (more : List (String × Json)) : Json :=
  .obj ([("id", .str id), ("type", .str type)] ++ more)

/-- The ways to give some parameters: where there are none they may be `null` or left out. -/
inductive GivenAs : List (String × Json) → List (String × Json) → Prop where
  | object (params : List (String × Json)) : GivenAs params [("params", .obj params)]
  | null : GivenAs [] [("params", .null)]
  | leftOut : GivenAs [] []

/-- The parameters that the members of an object stand for. -/
def paramsOf (members : List (String × Json)) : Params :=
  Dict.ofList (members.map fun m => (m.1, Param.ofJson m.2))

theorem readOption_ofJson_members (members : List (String × Json)) :
    (Node.ofJson (.obj members)).readOption (Node.readDict Param.read) =
      .ok (some (paramsOf members)) := by
  have sorted := Param.ofJson_sorted (.obj members)
  rw [Json.sorted_obj, Param.ofJson_obj, Param.ofJson_obj] at sorted
  rw [Node.ofJson, Json.sorted_obj, Node.readOption_ofSorted Json.noConfusion,
    Param.readDict_ofSorted, Param.object.inj sorted]
  rfl

theorem get?_paramsOf_innerKey {before after : List (String × Json)} (b : Json)
    (other : ∀ m ∈ after, m.1 ≠ innerKey) :
    (paramsOf (before ++ (innerKey, b) :: after)).get? innerKey = some (Param.ofJson b) := by
  rw [paramsOf, List.map_append, List.map_cons]
  exact Dict.get?_ofList_of_last _ (List.forall_mem_map.mpr other)

theorem erase_paramsOf_innerKey {before after : List (String × Json)} (b : Json)
    (other : ∀ m ∈ before ++ after, m.1 ≠ innerKey) :
    (paramsOf (before ++ (innerKey, b) :: after)).erase innerKey = paramsOf (before ++ after) := by
  have rest : (before ++ (innerKey, b) :: after).filter (fun m => m.1 ≠ innerKey) =
      before ++ after := by
    rw [List.filter_append, List.filter_cons_of_neg (by simp), ← List.filter_append]
    exact List.filter_eq_self.mpr fun m hm => decide_eq_true (other m hm)
  rw [paramsOf, Dict.erase_ofList, List.filter_map, paramsOf, ← rest]
  rfl

/-- The draft of a block with a body, however its parameters are given. -/
theorem exists_draft_of_body (id type : String) {params given : List (String × Json)} {b : Json}
    {blocks : List Block} {key : String} {body : Node → Except Fault (List Block)}
    (as : GivenAs params given) (own : key = innerKey ∨ key = "inner_blocks")
    (inner : (Node.ofJson b).readOption body = .ok (some blocks)) :
    ∃ d, (record body).read {} (Node.ofJson (wire id type (given ++ [(key, b)]))) = .ok d ∧
      d.id = some id ∧ d.type = some type ∧ d.given = paramsOf params ∧
        d.inner = some (some blocks) := by
  cases as with
  | object =>
    refine ⟨{ id := some id, type := some type, params := some (some (paramsOf params)),
              inner := some (some blocks) }, ?_, rfl, rfl, rfl, rfl⟩
    have tree : Node.ofJson (wire id type ([("params", .obj params)] ++ [(key, b)])) =
        .object none none
          [({ name := .ok "id" }, .scalar none (.str id)), ({ name := .ok key }, Node.ofJson b),
            ({ name := .ok "params" }, Node.ofJson (.obj params)),
            ({ name := .ok "type" }, .scalar none (.str type))] none := by
      rcases own with rfl | rfl <;> rfl
    rw [tree]
    exact read_record_members_body own (readOption_ofJson_members params) inner
  | null =>
    refine ⟨{ id := some id, type := some type, params := some none,
              inner := some (some blocks) }, ?_, rfl, rfl, rfl, rfl⟩
    have tree : Node.ofJson (wire id type ([("params", .null)] ++ [(key, b)])) =
        .object none none
          [({ name := .ok "id" }, .scalar none (.str id)), ({ name := .ok key }, Node.ofJson b),
            ({ name := .ok "params" }, .scalar none .null),
            ({ name := .ok "type" }, .scalar none (.str type))] none := by
      rcases own with rfl | rfl <;> rfl
    rw [tree]
    exact read_record_members_body own rfl inner
  | leftOut =>
    refine ⟨{ id := some id, type := some type, inner := some (some blocks) }, ?_,
      rfl, rfl, rfl, rfl⟩
    have tree : Node.ofJson (wire id type ([] ++ [(key, b)])) =
        .object none none
          [({ name := .ok "id" }, .scalar none (.str id)), ({ name := .ok key }, Node.ofJson b),
            ({ name := .ok "type" }, .scalar none (.str type))] none := by
      rcases own with rfl | rfl <;> rfl
    rw [tree]
    rcases own with rfl | rfl <;>
      simp [Json.Record.read, Json.Record.readMember, Json.Record.field?, record, Node.raise,
        Node.endOf, Node.readString, Node.readText, inner, innerKey, bind, Except.bind, pure,
        Except.pure]

/-- A list of blocks is read where it may be absent. -/
theorem readOption_of_read {b : Json} {fresh : Nat} {blocks : List Block}
    (h : b.read (readList · fresh) = .ok blocks) :
    (Node.ofJson b).readOption (readList · fresh) = .ok (some blocks) := by
  have value : b.sorted ≠ .null := by
    intro null
    rw [Json.read, Node.ofJson, null] at h
    cases h
  rw [Node.ofJson, Node.readOption_ofSorted value]
  exact congrArg (some <$> ·) h

end Block

/-! ### Older and current blocks -/

/-- **Older bodies**: a list of blocks among the parameters of a block is read as the blocks that it
is read as where it is the body, and the other parameters are the same. Nothing is different inside
of the blocks, at any depth. -/
theorem older_body_is_read_as_current (id type : String) {before after given : List (String × Json)}
    {b : Json} {blocks : List Block} {key : String} {fresh : Nat}
    (other : ∀ m ∈ before ++ after, m.1 ≠ innerKey)
    (as : Block.GivenAs (before ++ after) given) (own : key = innerKey ∨ key = "inner_blocks")
    (reads : b.read (Block.readList · fresh) = .ok blocks)
    (ids : (Node.ofJson b).items.all (Block.givesIds (Node.ofJson b).height)) (f g : Nat) :
    let block : Block := ⟨id, type, Block.paramsOf (before ++ after), blocks⟩
    let older := Block.wire id type [("params", .obj (before ++ (innerKey, b) :: after))]
    let current := Block.wire id type (given ++ [(key, b)])
    older.read (Block.read · f) = .ok block ∧ current.read (Block.read · g) = .ok block := by
  intro block older current
  have list : ∀ h, b.read (Block.readList · h) = .ok blocks := fun h =>
    (Block.readList_eq_of_givesIds ids h fresh).trans reads
  constructor
  · have draft : (Block.record (Block.readList · (f + 1))).read {} (Node.ofJson older) = .ok _ :=
      Block.read_record_members (Block.readOption_ofJson_members _)
    have there : (Block.paramsOf (before ++ (innerKey, b) :: after)).get? innerKey =
        some (Param.ofJson b) :=
      Block.get?_paramsOf_innerKey b fun m hm => other m (List.mem_append_right before hm)
    refine (Block.read_eq_lift draft rfl there).trans ?_
    rw [list, Block.Draft.given]
    exact congrArg (fun params => Except.ok (Block.mk id type params blocks))
      (Block.erase_paramsOf_innerKey b other)
  · obtain ⟨d, draft, hid, htype, params, body⟩ :=
      Block.exists_draft_of_body id type as own (Block.readOption_of_read (list (g + 1)))
    rw [Json.read, Block.read_eq_of_body draft body, hid, htype, params]
    rfl

/-- A function in a body, with a body among its own parameters, beside a block without parameters. -/
theorem nested_older_body_is_read_as_current :
    let lamp : Json := .obj [("id", .str "lamp"), ("type", .str "gpio_set"),
      ("params", .obj [("pin", .int 25), ("note", .null)])]
    let b : Json := .arr [
      .obj [("id", .str "wait"), ("type", .str "sleep"), ("params", .null)],
      .obj [("id", .str "blink"), ("type", .str "function_def"),
        ("params", .obj [("limit", .int (2 ^ 64 - 1)), (innerKey, .arr [lamp])])]]
    let block : Block := ⟨"guard", "if_condition", [("left", .integer 1)],
      [⟨"wait", "sleep", [], []⟩,
        ⟨"blink", "function_def", [("limit", .number (Binary64.ofInt (2 ^ 64 - 1)))],
          [⟨"lamp", "gpio_set", [("note", .null), ("pin", .integer 25)], []⟩]⟩]⟩
    (∀ m ∈ [("left", Json.int 1)], m.1 ≠ innerKey) ∧
      b.read (Block.readList · 0) = .ok block.inner ∧
      (Node.ofJson b).items.all (Block.givesIds (Node.ofJson b).height) ∧
      (Block.wire "guard" "if_condition"
        [("params", .obj [("left", .int 1), (innerKey, b)])]).read (Block.read · 1) = .ok block ∧
      (Block.wire "guard" "if_condition"
        [("params", .obj [("left", .int 1)]), ("inner_blocks", b)]).read (Block.read · 2) =
          .ok block := by
  intro lamp b block
  have other : ∀ m ∈ [("left", Json.int 1)], m.1 ≠ innerKey := by decide
  have reads : b.read (Block.readList · 0) = .ok block.inner := rfl
  have ids : (Node.ofJson b).items.all (Block.givesIds (Node.ofJson b).height) := by rfl
  obtain ⟨older, current⟩ :=
    @older_body_is_read_as_current "guard" "if_condition" [("left", .int 1)] [] _ b block.inner
      "inner_blocks" 0 other (.object _) (.inr rfl) reads ids 1 2
  exact ⟨other, reads, ids, older, current⟩

/-- **Lifting**: a value in the place of a body is taken out of the parameters, and nothing else is.
It becomes the body if it is read as a list of blocks; otherwise there is no body, and the value is
gone. So exactly the values that are read as one are not lost. -/
theorem older_value_is_kept_iff_read {n : Node} {fresh : Nat} {d : Block.Draft} {v : Json}
    (wire : (Block.record (Block.readList · (fresh + 1))).read {} n = .ok d)
    (bodiless : d.inner.getD none = none)
    (older : d.given.get? innerKey = some (Param.ofJson v)) :
    ∃ b, Block.read n fresh = .ok b ∧
      (∀ key, b.params.get? key = if key = innerKey then none else d.given.get? key) ∧
      b.inner = (v.read (Block.readList · (fresh + 1))).toOption.getD [] ∧
      (((∃ blocks, v.read (Block.readList · (fresh + 1)) = .ok blocks ∧ b.inner = blocks) ∨
          (b.inner = [] ∧ b.params.get? innerKey = some (Param.ofJson v))) ↔
        ∃ blocks, v.read (Block.readList · (fresh + 1)) = .ok blocks) := by
  have once : Dict.Ordered d.given := Block.ordered_given wire
  refine ⟨_, Block.read_eq_lift wire bodiless older, fun key => ?_, rfl, ?_⟩
  · split
    · rename_i same
      rw [same]
      exact once.get?_erase_self innerKey
    · rename_i ne
      exact Dict.get?_erase_of_ne _ ne
  · cases read : v.read (Block.readList · (fresh + 1)) with
    | ok blocks => simp [Except.toOption]
    | error fault => simp [once.get?_erase_self]

/-- A function with an empty list for its body, beside `null` where a body of its own would be. -/
theorem empty_older_body_is_taken_out :
    let j := Block.wire "f" "function_def"
      [("params", .obj [("name", .str "blink"), (innerKey, .arr [])]), (innerKey, .null)]
    let d : Block.Draft :=
      { id := some "f", type := some "function_def", inner := some none
        params := some (some [(innerKey, .array []), ("name", .string "blink")]) }
    (Block.record (Block.readList · 1)).read {} (Node.ofJson j) = .ok d ∧
      d.inner.getD none = none ∧ d.given.get? innerKey = some (Param.ofJson (.arr [])) ∧
      ∃ b, Block.read (Node.ofJson j) = .ok b ∧ b.params.get? innerKey = none := by
  intro j d
  have wire : (Block.record (Block.readList · 1)).read {} (Node.ofJson j) = .ok d := rfl
  have older : d.given.get? innerKey = some (Param.ofJson (.arr [])) := rfl
  obtain ⟨b, read, params, -, -⟩ := older_value_is_kept_iff_read wire rfl older
  exact ⟨wire, rfl, older, b, read, params innerKey⟩

/-- A function with a list of two blocks for its body, one of which has no type: both are gone. -/
theorem body_with_a_fault_is_lost :
    let v : Json := .arr [
      .obj [("id", .str "s"), ("type", .str "sleep"), ("params", .obj [("ms", .int 100)])],
      .obj [("id", .str "x")]]
    let b : Block := ⟨"f", "function_def", [("name", .string "blink")], []⟩
    (Block.wire "f" "function_def"
        [("params", .obj [("name", .str "blink"), (innerKey, v)])]).read (Block.read · 0) = .ok b ∧
      ¬((∃ blocks, v.read (Block.readList · 1) = .ok blocks ∧ b.inner = blocks) ∨
        (b.inner = [] ∧ b.params.get? innerKey = some (Param.ofJson v))) := by
  intro v b
  have fault : v.read (Block.readList · 1) = .error ⟨.missingField "type", none⟩ := rfl
  refine ⟨rfl, ?_⟩
  rw [fault]
  rintro (⟨_, read, -⟩ | ⟨-, kept⟩)
  · cases read
  · cases kept

end Blockware
