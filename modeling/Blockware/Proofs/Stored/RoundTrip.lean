import Blockware.Project
import Blockware.Proofs.Stored.Params

/-!
# Reading back what was written

A block is written without its body if that is empty. But a block without a body may be read as an
older one, which keeps a body among its parameters: the written form does not tell an empty body
from none.

- `Block.WellFormed`, `Block.wellFormed_of_read`: what reading gives.
- `Block.looksOlder`, `Block.isCurrent`: the blocks that are written like older ones, and the trees
  without any.
- `Block.readWithin_toJson`: every block is read back without a fault, and as itself if its tree is
  current. This is what the induction over a tree carries.
- `read_toJson_iff_isCurrent`: the same for blocks and projects, in both directions.
-/

namespace Blockware

open Json (Node Fault)

namespace Block

/-! ### What reading gives -/

/-- A block as reading gives it. -/
inductive WellFormed : Block → Prop where
  | mk {id type : String} {params : Params} {inner : List Block}
      (given : Params.WellFormed params) (body : ∀ c ∈ inner, WellFormed c) :
      WellFormed ⟨id, type, params, inner⟩

/-- A draft with parts as reading gives them. -/
structure Draft.WellFormed (d : Draft) : Prop where
  params : ∀ params, d.params = some (some params) → Params.WellFormed params
  inner : ∀ inner, d.inner = some (some inner) → ∀ c ∈ inner, c.WellFormed

theorem wellFormed_of_set {body : Node → Except Fault (List Block)}
    (hbody : ∀ n bs, body n = .ok bs → ∀ c ∈ bs, c.WellFormed) :
    ∀ f ∈ (record body).fields, ∀ n d d', Draft.WellFormed d → f.set d n = .ok d' →
      Draft.WellFormed d' := by
  intro f hf n d d' hd h
  simp only [record, List.mem_cons, List.not_mem_nil, or_false] at hf
  rcases hf with rfl | rfl | rfl | rfl
  · obtain ⟨id, -, h⟩ := Json.bind_eq_ok.mp h
    cases h
    exact ⟨hd.params, hd.inner⟩
  · obtain ⟨type, -, h⟩ := Json.bind_eq_ok.mp h
    cases h
    exact ⟨hd.params, hd.inner⟩
  · obtain ⟨params, hparams, h⟩ := Json.bind_eq_ok.mp h
    cases h
    refine ⟨fun given same => ?_, hd.inner⟩
    cases same
    exact Params.WellFormed.of_read (Node.of_readOption hparams)
  · obtain ⟨inner, hinner, h⟩ := Json.bind_eq_ok.mp h
    cases h
    refine ⟨hd.params, fun given same => ?_⟩
    cases same
    exact hbody n given (Node.of_readOption hinner)

theorem wellFormed_of_read_record {body : Node → Except Fault (List Block)}
    (hbody : ∀ n bs, body n = .ok bs → ∀ c ∈ bs, c.WellFormed) {n : Node} {d : Draft}
    (h : (record body).read {} n = .ok d) : d.WellFormed :=
  Json.Record.read_invariant (fun f hf m _ => wellFormed_of_set hbody f hf m)
    ⟨by simp, by simp⟩ h

theorem wellFormed_of_lift {body : Json → Option (List Block)}
    (hbody : ∀ value bs, body value = some bs → ∀ c ∈ bs, c.WellFormed) {params : Params}
    (h : Params.WellFormed params) :
    Params.WellFormed (lift body params).1 ∧ ∀ c ∈ (lift body params).2, c.WellFormed := by
  rw [lift]
  split
  · exact ⟨h, by simp⟩
  · rename_i value _
    refine ⟨h.erase innerKey, ?_⟩
    cases lifted : body value.toJson with
    | none => simp
    | some bs => exact hbody _ bs lifted

theorem wellFormed_ofDraft {body : Json → Option (List Block)}
    (hbody : ∀ value bs, body value = some bs → ∀ c ∈ bs, c.WellFormed) (fresh : Nat) {d : Draft}
    (h : d.WellFormed) : (ofDraft body fresh d).WellFormed := by
  obtain ⟨id, type, params, inner⟩ := d
  have given : Params.WellFormed ((params.getD none).getD []) := by
    rcases params with _ | _ | params
    · exact .nil
    · exact .nil
    · exact h.params params rfl
  rcases inner with _ | _ | inner
  · exact .mk (wellFormed_of_lift hbody given).1 (wellFormed_of_lift hbody given).2
  · exact .mk (wellFormed_of_lift hbody given).1 (wellFormed_of_lift hbody given).2
  · exact .mk given (h.inner inner rfl)

theorem wellFormed_of_readListBy {one : Nat → Node → Except Fault Block}
    (hone : ∀ fresh n b, one fresh n = .ok b → b.WellFormed) {fresh : Nat} {n : Node}
    {bs : List Block} (h : readListBy one fresh n = .ok bs) : ∀ c ∈ bs, c.WellFormed := by
  obtain ⟨⟨read, next⟩, hread, h⟩ := Json.bind_eq_ok.mp h
  cases h
  have all : ∀ c ∈ read, c.WellFormed := by
    refine Node.foldItems_invariant (P := fun s : List Block × Nat => ∀ c ∈ s.1, c.WellFormed)
      ?_ (by simp) hread
    rintro ⟨done, next⟩ n ⟨done', next'⟩ hdone h
    obtain ⟨b, hb, h⟩ := Json.bind_eq_ok.mp h
    cases h
    exact List.forall_mem_cons.mpr ⟨hone next n b hb, hdone⟩
  exact fun c hc => all c (List.mem_reverse.mp hc)

theorem wellFormed_of_readWithin {bound fresh : Nat} {n : Node} {b : Block}
    (h : readWithin bound fresh n = .ok b) : b.WellFormed := by
  induction bound generalizing fresh n b with
  | zero => cases h
  | succ bound ih =>
    have body : ∀ n bs, readListBy (readWithin bound) (fresh + 1) n = .ok bs →
        ∀ c ∈ bs, c.WellFormed := fun n bs => wellFormed_of_readListBy fun _ _ _ => ih
    obtain ⟨draft, hdraft, h⟩ := Json.bind_eq_ok.mp h
    cases h
    refine wellFormed_ofDraft (fun value bs h => ?_) fresh (wellFormed_of_read_record body hdraft)
    -- A body among the parameters is read by the reader of bodies, its faults aside.
    cases lifted : Json.read value (readListBy (readWithin bound) (fresh + 1)) with
    | error fault =>
      rw [lifted] at h
      cases h
    | ok read =>
      rw [lifted] at h
      cases h
      exact body _ _ lifted

theorem wellFormed_of_readList {n : Node} {fresh : Nat} {bs : List Block}
    (h : readList n fresh = .ok bs) : ∀ c ∈ bs, c.WellFormed :=
  wellFormed_of_readListBy (fun _ _ _ => wellFormed_of_readWithin) h

/-- Every block that is read is in form, whatever it is read from. -/
theorem wellFormed_of_read {n : Node} {fresh : Nat} {b : Block} (h : read n fresh = .ok b) :
    b.WellFormed :=
  wellFormed_of_readWithin h

/-! ### Current trees -/

/-- Whether a block is written like one of an older program: it has no body, and a parameter in the
place of one. -/
def looksOlder (b : Block) : Bool := b.inner.isEmpty && (b.params.get? innerKey).isSome

mutual

/-- Whether no block of a tree is written like an older one. -/
def isCurrent : Block → Bool
  | ⟨id, type, params, inner⟩ => !looksOlder ⟨id, type, params, inner⟩ && areCurrent inner

/-- Whether no block of some trees is written like an older one. -/
def areCurrent : List Block → Bool
  | [] => true
  | b :: rest => isCurrent b && areCurrent rest

end

theorem areCurrent_iff {bs : List Block} : areCurrent bs ↔ ∀ b ∈ bs, b.isCurrent := by
  induction bs with
  | nil => simp [areCurrent]
  | cons b rest ih => rw [areCurrent, Bool.and_eq_true, ih, List.forall_mem_cons]

/-! ### The trees of written blocks -/

theorem listToJson_eq_map (bs : List Block) : listToJson bs = bs.map toJson := by
  induction bs with
  | nil => rfl
  | cons b rest ih => rw [listToJson, ih, List.map_cons]

/-- The tree of a list of written blocks. -/
theorem ofJson_listToJson (bs : List Block) :
    Node.ofJson (.arr (listToJson bs)) =
      .array none none (bs.map fun b => Node.ofJson b.toJson) none := by
  rw [listToJson_eq_map, Node.ofJson, Json.sorted_arr, Node.ofSorted, Node.ofItems_eq_map,
    List.map_map, List.map_map]
  rfl

section Members

variable (id type : String) (params : Params)

/-- The tree of a written block without a body. -/
theorem ofJson_toJson_bodiless :
    Node.ofJson (toJson ⟨id, type, params, []⟩) =
      .object none none
        [({ name := .ok "id" }, .scalar none (.str id)),
          ({ name := .ok "params" }, Node.ofJson (Param.object params).toJson),
          ({ name := .ok "type" }, .scalar none (.str type))] none := rfl

/-- The tree of a written block with a body. -/
theorem ofJson_toJson_cons (first : Block) (rest : List Block) :
    Node.ofJson (toJson ⟨id, type, params, first :: rest⟩) =
      .object none none
        [({ name := .ok "id" }, .scalar none (.str id)),
          ({ name := .ok innerKey }, Node.ofJson (.arr (listToJson (first :: rest)))),
          ({ name := .ok "params" }, Node.ofJson (Param.object params).toJson),
          ({ name := .ok "type" }, .scalar none (.str type))] none := rfl

variable {id type params} {body : Node → Except Fault (List Block)}

/-- Parameters in form are read back as the member of a block. -/
theorem readOption_ofJson_params (h : Params.WellFormed params) :
    (Node.ofJson (Param.object params).toJson).readOption (Node.readDict Param.read) =
      .ok (some params) := by
  rw [Node.ofJson_eq_ofSorted h.canonical]
  show some <$> Node.readDict Param.read (Node.ofSorted (Param.object params).toJson) = _
  rw [h.read_ofSorted]
  rfl

/-- The draft of an object without a body. -/
theorem read_record_members {P : Node}
    (given : P.readOption (Node.readDict Param.read) = .ok (some params)) :
    (record body).read {} (.object none none
        [({ name := .ok "id" }, .scalar none (.str id)), ({ name := .ok "params" }, P),
          ({ name := .ok "type" }, .scalar none (.str type))] none) =
      .ok { id := some id, type := some type, params := some (some params) } := by
  simp [Json.Record.read, Json.Record.readMember, Json.Record.field?, record, Node.raise,
    Node.endOf, Node.readString, Node.readText, given, bind, Except.bind, pure, Except.pure]

/-- The draft of an object with a body, under either of its names. -/
theorem read_record_members_body {P B : Node} {given? : Option Params} {key : String}
    {bs : List Block} (own : key = innerKey ∨ key = "inner_blocks")
    (given : P.readOption (Node.readDict Param.read) = .ok given?)
    (inner : B.readOption body = .ok (some bs)) :
    (record body).read {} (.object none none
        [({ name := .ok "id" }, .scalar none (.str id)), ({ name := .ok key }, B),
          ({ name := .ok "params" }, P), ({ name := .ok "type" }, .scalar none (.str type))] none) =
      .ok { id := some id, type := some type, params := some given?,
            inner := some (some bs) } := by
  rcases own with rfl | rfl <;>
    simp [Json.Record.read, Json.Record.readMember, Json.Record.field?, record, Node.raise,
      Node.endOf, Node.readString, Node.readText, given, inner, innerKey, bind, Except.bind, pure,
      Except.pure]

theorem read_record_bodiless (h : Params.WellFormed params) :
    (record body).read {} (Node.ofJson (toJson ⟨id, type, params, []⟩)) =
      .ok { id := some id, type := some type, params := some (some params) } := by
  rw [ofJson_toJson_bodiless]
  exact read_record_members (readOption_ofJson_params h)

theorem read_record_cons (h : Params.WellFormed params) {first : Block} {rest bs : List Block}
    (hbody : body (Node.ofJson (.arr (listToJson (first :: rest)))) = .ok bs) :
    (record body).read {} (Node.ofJson (toJson ⟨id, type, params, first :: rest⟩)) =
      .ok { id := some id, type := some type, params := some (some params),
            inner := some (some bs) } := by
  have inner : (Node.ofJson (.arr (listToJson (first :: rest)))).readOption body =
      .ok (some bs) := by
    rw [ofJson_listToJson] at hbody ⊢
    show some <$> body _ = _
    rw [hbody]
    rfl
  rw [ofJson_toJson_cons]
  exact read_record_members_body (.inl rfl) (readOption_ofJson_params h) inner

end Members

/-! ### Reading back -/

/-- The tree of a written block is higher than those of the blocks in its body. -/
theorem height_ofJson_lt {id type : String} {params : Params} {inner : List Block} {c : Block}
    (h : c ∈ inner) :
    (Node.ofJson c.toJson).height < (Node.ofJson (toJson ⟨id, type, params, inner⟩)).height := by
  cases inner with
  | nil => cases h
  | cons first rest =>
    have item : (Node.ofJson c.toJson).height ≤
        Node.heightOfItems ((first :: rest).map fun b => Node.ofJson b.toJson) :=
      Node.heightOfItems_le_iff.mp le_rfl _ (List.mem_map.mpr ⟨c, h, rfl⟩)
    rw [ofJson_toJson_cons, ofJson_listToJson]
    simp only [Node.height, Node.heightOfMembers]
    omega

/-- Blocks that are read back one by one are read back as a list. -/
theorem readListBy_toJson {one : Nat → Node → Except Fault Block} {bs : List Block}
    (h : ∀ c ∈ bs, ∀ fresh, ∃ c', one fresh (Node.ofJson c.toJson) = .ok c' ∧
      (c' = c ↔ c.isCurrent)) (fresh : Nat) :
    ∃ bs', readListBy one fresh (Node.ofJson (.arr (listToJson bs))) = .ok bs' ∧
      (bs' = bs ↔ areCurrent bs) := by
  let step : List Block × Nat → Node → Except Fault (List Block × Nat) :=
    fun done item => do
      let b ← one done.2 item
      return (b :: done.1, done.2 + b.size)
  have items : ∀ done next, ∃ bs' next',
      Node.foldFrom step none none (done, next) (bs.map fun b => Node.ofJson b.toJson) =
        .ok (bs'.reverse ++ done, next') ∧ (bs' = bs ↔ areCurrent bs) := by
    clear fresh
    induction bs with
    | nil =>
      intro done next
      exact ⟨[], next, rfl, by simp [areCurrent]⟩
    | cons b rest ih =>
      intro done next
      obtain ⟨b', hb, first⟩ := h b List.mem_cons_self next
      obtain ⟨rest', next', hrest, later⟩ :=
        ih (fun c hc => h c (List.mem_cons_of_mem b hc)) (b' :: done) (next + b'.size)
      refine ⟨b' :: rest', next', ?_, ?_⟩
      · have head : step (done, next) (Node.ofJson b.toJson) =
            .ok (b' :: done, next + b'.size) := by
          show (one next (Node.ofJson b.toJson) >>= _) = _
          rw [hb]
          rfl
        rw [List.map_cons, Node.foldFrom, head, List.reverse_cons, List.append_assoc,
          List.singleton_append]
        exact hrest
      · rw [List.cons.injEq, first, later, areCurrent, Bool.and_eq_true]
  obtain ⟨bs', next', hitems, same⟩ := items [] fresh
  refine ⟨bs', ?_, same⟩
  rw [readListBy, ofJson_listToJson, Node.foldItems]
  show ((Node.foldFrom step none none ([], fresh) _ >>= _) >>= _) = _
  rw [hitems]
  show Except.ok (bs'.reverse ++ []).reverse = _
  rw [List.append_nil, List.reverse_reverse]

/-- A block in form is read back without a fault, and as itself exactly if its tree is current. -/
theorem readWithin_toJson {b : Block} (wf : b.WellFormed) :
    ∀ {bound : Nat}, (Node.ofJson b.toJson).height ≤ bound → ∀ fresh, ∃ b',
      readWithin bound fresh (Node.ofJson b.toJson) = .ok b' ∧ (b' = b ↔ b.isCurrent) := by
  induction wf with
  | @mk id type params inner given _ ih =>
    intro bound high fresh
    have lowest := (Node.ofJson (toJson ⟨id, type, params, inner⟩)).height_pos
    obtain ⟨bound, rfl⟩ : ∃ k, bound = k + 1 := Nat.exists_eq_succ_of_ne_zero (by omega)
    cases inner with
    | nil =>
      rw [readWithin, read_record_bodiless given]
      refine ⟨_, rfl, ?_⟩
      simp only [ofDraft, Option.getD_some, Option.getD_none, lift]
      cases older : params.get? innerKey with
      | none => simp [isCurrent, looksOlder, areCurrent, older]
      | some value =>
        -- The parameter is taken for a body, so it is gone from the block that is read.
        have lost : params.erase innerKey ≠ params := by
          intro same
          have gone := given.ordered.get?_erase_self innerKey
          rw [same, older] at gone
          cases gone
        simp [isCurrent, looksOlder, older, lost]
    | cons first rest =>
      have inner : ∀ c ∈ first :: rest, ∀ fresh, ∃ c',
          readWithin bound fresh (Node.ofJson c.toJson) = .ok c' ∧ (c' = c ↔ c.isCurrent) := by
        intro c hc
        have lower : (Node.ofJson c.toJson).height <
            (Node.ofJson (toJson ⟨id, type, params, first :: rest⟩)).height := height_ofJson_lt hc
        exact ih c hc (by omega)
      obtain ⟨bs, hbs, same⟩ := readListBy_toJson inner (fresh + 1)
      rw [readWithin, read_record_cons given hbs]
      refine ⟨_, rfl, ?_⟩
      simp [ofDraft, isCurrent, looksOlder, same]

end Block

/-! ### Projects -/

namespace Project

/-- A project as reading gives it. -/
structure WellFormed (p : Project) : Prop where
  blocks : ∀ b ∈ p.blocks, b.WellFormed
  ordered : Dict.Ordered p.buildOptions
  options : ∀ e ∈ p.buildOptions, e.2.Canonical

/-- A draft with parts as reading gives them. -/
structure Draft.WellFormed (d : Draft) : Prop where
  blocks : ∀ b ∈ d.blocks.getD [], b.WellFormed
  ordered : Dict.Ordered (d.buildOptions.getD [])
  options : ∀ e ∈ d.buildOptions.getD [], e.2.Canonical

theorem wellFormed_of_set {fresh : Nat} :
    ∀ f ∈ (record fresh).fields, ∀ n d d', Draft.WellFormed d → f.set d n = .ok d' →
      Draft.WellFormed d' := by
  intro f hf n d d' hd h
  simp only [record, List.mem_cons, List.not_mem_nil, or_false] at hf
  rcases hf with rfl | rfl | rfl
  · obtain ⟨modules, -, h⟩ := Json.bind_eq_ok.mp h
    cases h
    exact ⟨hd.blocks, hd.ordered, hd.options⟩
  · obtain ⟨blocks, hblocks, h⟩ := Json.bind_eq_ok.mp h
    cases h
    refine ⟨?_, hd.ordered, hd.options⟩
    exact Block.wellFormed_of_readList hblocks
  · obtain ⟨options, hoptions, h⟩ := Json.bind_eq_ok.mp h
    cases h
    obtain ⟨ordered, values⟩ :=
      Node.readDict_invariant (fun _ _ _ => Node.canonical_of_toJson) hoptions
    exact ⟨hd.blocks, ordered, values⟩

/-- Every project that is read is in form, also one that is a list of modules. -/
theorem wellFormed_of_read {n : Node} {fresh : Nat} {p : Project} (h : read n fresh = .ok p) :
    p.WellFormed := by
  obtain ⟨_, -, h⟩ := Json.bind_eq_ok.mp h
  have result := Json.mapError_eq_ok.mp h
  split at result
  · obtain ⟨d, hd, result⟩ := Json.bind_eq_ok.mp result
    cases result
    have start : Draft.WellFormed {} := ⟨by simp, Dict.ordered_nil, by simp⟩
    have draft : Draft.WellFormed d :=
      Json.Record.read_invariant (fun f hf m _ => wellFormed_of_set f hf m) start hd
    exact ⟨draft.blocks, draft.ordered, draft.options⟩
  · obtain ⟨modules, -, result⟩ := Json.bind_eq_ok.mp result
    cases result
    exact ⟨by simp, Dict.ordered_nil, by simp⟩

/-- The tree of a written project. -/
theorem ofJson_toJson (p : Project) :
    Node.ofJson p.toJson =
      .object none none
        [({ name := .ok "blocks" }, Node.ofJson (.arr (Block.listToJson p.blocks))),
          ({ name := .ok "build_options" }, Node.ofJson (.obj p.buildOptions)),
          ({ name := .ok "modules" }, Node.ofJson (.ofStrings p.modules))] none := rfl

theorem readList_ofJson_modules (modules : List String) :
    (Node.ofJson (.ofStrings modules)).readList Node.readString = .ok modules := by
  have canonical : (Json.ofStrings modules).Canonical :=
    .arr (List.forall_mem_map.mpr fun s _ => .str s)
  rw [Node.ofJson_eq_ofSorted canonical]
  exact Node.readList_ofSorted fun s _ => rfl

theorem readDict_ofJson_options {options : Dict Json} (ordered : Dict.Ordered options)
    (values : ∀ e ∈ options, e.2.Canonical) :
    (Node.ofJson (.obj options)).readDict Node.toJson = .ok options := by
  rw [Node.ofJson_eq_ofSorted (.obj ordered values)]
  have back : (Node.ofSorted (.obj (options.map fun e => (e.1, id e.2)))).readDict Node.toJson =
      .ok options := Node.readDict_ofSorted ordered fun e he =>
        Node.toJson_ofSorted_of_canonical (values e he)
  simpa using back

/-- The blocks of a project are read back without a fault, and as themselves exactly if they are
current. -/
theorem readList_ofJson_blocks {blocks : List Block} (wf : ∀ b ∈ blocks, b.WellFormed)
    (fresh : Nat) :
    ∃ blocks', Block.readList (Node.ofJson (.arr (Block.listToJson blocks))) fresh = .ok blocks' ∧
      (blocks' = blocks ↔ Block.areCurrent blocks) := by
  refine Block.readListBy_toJson (fun c hc => Block.readWithin_toJson (wf c hc) ?_) fresh
  rw [Block.ofJson_listToJson, Node.height]
  have item : (Node.ofJson c.toJson).height ≤
      Node.heightOfItems (blocks.map fun b => Node.ofJson b.toJson) :=
    Node.heightOfItems_le_iff.mp le_rfl _ (List.mem_map.mpr ⟨c, hc, rfl⟩)
  omega

/-- A project in form is read back without a fault, and as itself exactly if its blocks are
current. -/
theorem read_toJson {p : Project} (wf : p.WellFormed) (fresh : Nat) :
    ∃ p', read (Node.ofJson p.toJson) fresh = .ok p' ∧ (p' = p ↔ Block.areCurrent p.blocks) := by
  obtain ⟨blocks, hblocks, same⟩ := readList_ofJson_blocks wf.blocks fresh
  have modules := readList_ofJson_modules p.modules
  have options := readDict_ofJson_options wf.ordered wf.options
  have object : readObject (Node.ofJson p.toJson) fresh = .ok { p with blocks } := by
    rw [ofJson_toJson]
    simp [readObject, Json.Record.read, Json.Record.readMember, Json.Record.field?, record,
      Node.raise, Node.endOf, hblocks, modules, options, bind, Except.bind, pure, Except.pure]
  refine ⟨{ p with blocks }, ?_, ?_⟩
  · have whole : read (Node.ofJson p.toJson) fresh =
        ((Node.ofJson p.toJson).toJson >>= fun _ =>
          (readObject (Node.ofJson p.toJson) fresh).mapError fun _ =>
            ⟨.noVariant "RawProjectConfig", none⟩) := rfl
    rw [whole, Node.toJson_ofJson, object]
    rfl
  · obtain ⟨modules, given, options⟩ := p
    rw [← same]
    simp

end Project

/-! ### The round trip -/

/-- **Reading back**: a block that was read from a value, or from a text, and is written is read
back without a fault. What is read is the same block, at every level of its body, exactly if no
block in it has an empty body beside a parameter in the place of one. So it is with the blocks of a
project. -/
theorem read_toJson_iff_isCurrent (n : Node) (fresh fresh' : Nat) :
    (∀ b, Block.read n fresh = .ok b →
      ∃ b', b.toJson.read (Block.read · fresh') = .ok b' ∧ (b' = b ↔ b.isCurrent)) ∧
    (∀ p, Project.read n fresh = .ok p →
      ∃ p', p.toJson.read (Project.read · fresh') = .ok p' ∧
        (p' = p ↔ ∀ b ∈ p.blocks, b.isCurrent)) := by
  constructor
  · intro b h
    exact Block.readWithin_toJson (Block.wellFormed_of_read h) (Nat.le_refl _) fresh'
  · intro p h
    rw [← Block.areCurrent_iff]
    exact Project.read_toJson (Project.wellFormed_of_read h) fresh'

/-- A conditional around a function of an older program, whose body is among its parameters. -/
theorem older_function_is_read_back :
    let wait : Json := .obj [("id", .str "wait"), ("type", .str "sleep"), ("params", .null)]
    let blink : Json := .obj [("id", .str "blink"), ("type", .str "function_def"),
      ("params", .obj [("name", .str "blink"), (innerKey, .arr [wait])])]
    let guard : Json := .obj [("id", .str "guard"), ("type", .str "if_condition"),
      ("params", .obj [("left", .int 1)]), ("inner_blocks", .arr [blink])]
    let b : Block := ⟨"guard", "if_condition", [("left", .integer 1)],
      [⟨"blink", "function_def", [("name", .string "blink")], [⟨"wait", "sleep", [], []⟩]⟩]⟩
    let p : Project := { blocks := [b], modules := ["adc"] }
    Block.read (Node.ofJson guard) = .ok b ∧ b.isCurrent ∧
      b.toJson.read (Block.read · 0) = .ok b ∧
    Project.read (Node.ofJson (.obj [("blocks", .arr [guard]), ("modules", .arr [.str "adc"])])) =
      .ok p ∧ p.toJson.read (Project.read · 0) = .ok p := by
  intro wait blink guard b p
  have readBlock : Block.read (Node.ofJson guard) = .ok b := rfl
  have readProject : Project.read
      (Node.ofJson (.obj [("blocks", .arr [guard]), ("modules", .arr [.str "adc"])])) = .ok p := rfl
  have current : b.isCurrent := by decide
  obtain ⟨b', hb, sameBlock⟩ := (read_toJson_iff_isCurrent _ 0 0).1 b readBlock
  obtain ⟨p', hp, sameProject⟩ := (read_toJson_iff_isCurrent _ 0 0).2 p readProject
  rw [sameBlock.mpr current] at hb
  rw [sameProject.mpr (List.forall_mem_singleton.mpr current)] at hp
  exact ⟨readBlock, current, hb, readProject, hp⟩

/-- A function with an empty body beside a parameter in the place of one: the parameter is lost when
what was written is read back. -/
theorem empty_body_is_not_read_back :
    let j : Json := .obj [("id", .str "f"), ("type", .str "function_def"),
      ("params", .obj [("name", .str "blink"), (innerKey, .str "none")]), (innerKey, .arr [])]
    let b : Block :=
      ⟨"f", "function_def", [(innerKey, .string "none"), ("name", .string "blink")], []⟩
    let p : Project := { blocks := [b] }
    j.read (Block.read · 0) = .ok b ∧
      b.toJson.read (Block.read · 0) = .ok ⟨"f", "function_def", [("name", .string "blink")], []⟩ ∧
      b.toJson.read (Block.read · 0) ≠ .ok b ∧
    (Json.obj [("blocks", .arr [j])]).read (Project.read · 0) = .ok p ∧
      p.toJson.read (Project.read · 0) ≠ .ok p := by
  intro j b p
  have lost : b.toJson.read (Block.read · 0) =
      .ok ⟨"f", "function_def", [("name", .string "blink")], []⟩ := rfl
  have lostInProject : p.toJson.read (Project.read · 0) =
      .ok { blocks := [⟨"f", "function_def", [("name", .string "blink")], []⟩] } := rfl
  refine ⟨rfl, lost, ?_, rfl, ?_⟩
  · rw [lost]
    simp [b]
  · rw [lostInProject]
    simp [p, b]

end Blockware
