import SampleForge.Proofs.Json.Tokens
import SampleForge.Proofs.KeyMap

/-!
# Reading printed values

The reader keeps a frame for each list and each object around the present place, and takes no more
than `depthLimit` of them.  So it reads back what was printed exactly when no more of them are open
at once where the value is deepest (`Value.nesting`), and refuses it otherwise.

A printed object may have its fields in any order, since the reader orders them.  A document
*arranges* a value (`Value.Arranges`) when it becomes that value once its fields are in order.  What
arranges a value reads as that value, in both layouts (`Value.Arranges.read?_eq`).
-/

namespace SampleForge.Json

/-! ## Depth and order -/

mutual

/-- The number of lists and objects around the innermost place of a value. -/
def Value.nesting : Value → Nat
| .list items => nestingOfItems items + 1
| .object fields => nestingOfFields fields + 1
| .null | .bool _ | .int _ | .real _ | .text _ => 0

/-- The nesting of the deepest member of a list. -/
def nestingOfItems : List Value → Nat
| [] => 0
| v :: rest => max v.nesting (nestingOfItems rest)

/-- The nesting of the deepest field of an object. -/
def nestingOfFields : List (String × Value) → Nat
| [] => 0
| (_, v) :: rest => max v.nesting (nestingOfFields rest)

end

mutual

/-- A value with the fields of every object in ascending order. -/
def Value.ordered : Value → Value
| .list items => .list (orderedItems items)
| .object fields => .ofFields (orderedFields fields)
| .null => .null
| .bool b => .bool b
| .int n => .int n
| .real x => .real x
| .text s => .text s

/-- Values with the fields of every object in ascending order. -/
def orderedItems : List Value → List Value
| [] => []
| v :: rest => v.ordered :: orderedItems rest

/-- Fields whose values have the fields of every object in ascending order. -/
def orderedFields : List (String × Value) → List (String × Value)
| [] => []
| (k, v) :: rest => (k, v.ordered) :: orderedFields rest

end

/-- A document without numbers that becomes a value once its fields are in order. -/
structure Value.Arranges (doc v : Value) : Prop where
  /-- It holds no numbers and names no field of an object twice. -/
  plain : doc.Plain
  /-- With its fields in order it is the value. -/
  ordered : doc.ordered = v

theorem orderedItems_eq_map (items : List Value) :
    orderedItems items = items.map Value.ordered := by
  induction items with
  | nil => rfl
  | cons v rest ih => rw [orderedItems, ih, List.map_cons]

theorem orderedFields_eq_map (fields : List (String × Value)) :
    orderedFields fields = fields.map fun field => (field.1, field.2.ordered) := by
  induction fields with
  | nil => rfl
  | cons field rest ih => rw [orderedFields, ih, List.map_cons]

theorem ofFields_eq_ofList (fields : List (String × Value)) :
    Value.ofFields fields = .object (KeyMap.ofList fields).toList := by
  have hfold : fields.foldl (fun acc field => insertPair field.1 field.2 acc)
      (KeyMap.empty : KeyMap Value).toList =
      (fields.foldl (fun map pair => map.insert pair.1 pair.2) KeyMap.empty).toList :=
    List.foldl_hom KeyMap.toList fun _ _ => rfl
  exact congrArg Value.object hfold

/-! ### Members -/

theorem nesting_le_nestingOfItems {v : Value} {items : List Value} (h : v ∈ items) :
    v.nesting ≤ nestingOfItems items := by
  induction items with
  | nil => cases h
  | cons w rest ih =>
    rw [nestingOfItems]
    rcases List.mem_cons.1 h with rfl | h
    · exact Nat.le_max_left _ _
    · exact Nat.le_trans (ih h) (Nat.le_max_right _ _)

/-- A list is open around each of its members. -/
theorem nesting_lt_list {v : Value} {items : List Value} (h : v ∈ items) :
    v.nesting < (Value.list items).nesting :=
  Nat.lt_succ_of_le (nesting_le_nestingOfItems h)

theorem nestingOfFields_le_iff {fields : List (String × Value)} {n : Nat} :
    nestingOfFields fields ≤ n ↔ ∀ field ∈ fields, field.2.nesting ≤ n := by
  induction fields with
  | nil => simp [nestingOfFields]
  | cons field rest ih =>
    rw [nestingOfFields, Nat.max_le, ih, List.forall_mem_cons]

/-- An object is open around the value of each of its fields. -/
theorem nesting_lt_object {k : String} {v : Value} {fields : List (String × Value)}
    (h : (k, v) ∈ fields) : v.nesting < (Value.object fields).nesting :=
  Nat.lt_succ_of_le (nestingOfFields_le_iff.1 (Nat.le_refl _) (k, v) h)

/-! ## Reading -/

/-- What is read from the tokens that are left, in the state that a value leads to. -/
def resume (state : Expect × List Frame) (rest : List Token) : Option Value :=
  parseFrom state.1 state.2 rest

/-- The tokens of a value are read as the value in order, unless too much is open. -/
def Value.Reads (v : Value) : Prop :=
  ∀ (frames : List Frame) (rest : List Token), frames.length ≤ depthLimit →
    parseFrom .value frames (v.tokens ++ rest) =
      if frames.length + v.nesting ≤ depthLimit then resume (place v.ordered frames) rest else none

section Frames

variable (frames : List Frame) (rest : List Token)

theorem parseFrom_openList :
    parseFrom .value frames (.openList :: rest) =
      if frames.length < depthLimit then parseFrom .valueOrEnd (.list [] :: frames) rest
      else none := by
  by_cases hroom : frames.length < depthLimit
  · simp [parseFrom, parseStep, startValue, openFrame, hroom]
  · simp [parseFrom, parseStep, startValue, openFrame, hroom]

theorem parseFrom_openObject :
    parseFrom .value frames (.openObject :: rest) =
      if frames.length < depthLimit then parseFrom .nameOrEnd (.object [] "" :: frames) rest
      else none := by
  by_cases hroom : frames.length < depthLimit
  · simp [parseFrom, parseStep, startValue, openFrame, hroom]
  · simp [parseFrom, parseStep, startValue, openFrame, hroom]

/-- No value starts with the end of a list. -/
theorem parseFrom_valueOrEnd (v : Value) :
    parseFrom .valueOrEnd frames (v.tokens ++ rest) =
      parseFrom .value frames (v.tokens ++ rest) := by
  cases v with
  | list items =>
    cases items with
    | nil => rfl
    | cons v rest => rfl
  | object fields =>
    cases fields with
    | nil => rfl
    | cons field rest => rfl
  | _ => rfl

end Frames

/-- The room for one member and the room for the others is the room for the deepest of them. -/
theorem ite_max {α : Type} (count member others : Nat) (result : Option α) :
    (if count + 1 + member ≤ depthLimit then
        if count + (others + 1) ≤ depthLimit then result else none
      else none) =
      if count + (max member others + 1) ≤ depthLimit then result else none := by
  split
  · split
    · rw [if_pos (by omega)]
    · rw [if_neg (by omega)]
  · rw [if_neg (by omega)]

theorem parseFrom_laterItems {items : List Value} (h : ∀ v ∈ items, v.Reads) (acc : List Value)
    {frames : List Frame} (rest : List Token) (hroom : frames.length < depthLimit) :
    parseFrom .next (.list acc :: frames) (laterItems items ++ .closeList :: rest) =
      if frames.length + (nestingOfItems items + 1) ≤ depthLimit then
        resume (place (.list (acc.reverse ++ orderedItems items)) frames) rest
      else none := by
  induction items generalizing acc with
  | nil =>
    rw [nestingOfItems, if_pos (by omega), orderedItems, List.append_nil]
    rfl
  | cons v items ih =>
    obtain ⟨hv, hitems⟩ := List.forall_mem_cons.1 h
    have hcomma : parseFrom .next (.list acc :: frames)
        (laterItems (v :: items) ++ .closeList :: rest) =
        parseFrom .value (.list acc :: frames)
          (v.tokens ++ (laterItems items ++ .closeList :: rest)) := by
      rw [laterItems, List.cons_append, List.append_assoc]
      rfl
    have hplaced : resume (place v.ordered (.list acc :: frames))
        (laterItems items ++ .closeList :: rest) =
        parseFrom .next (.list (v.ordered :: acc) :: frames)
          (laterItems items ++ .closeList :: rest) := rfl
    rw [hcomma, hv (.list acc :: frames) _ hroom, hplaced, ih hitems, List.length_cons, ite_max,
      nestingOfItems, orderedItems, List.reverse_cons, List.append_assoc, List.singleton_append]

theorem parseFrom_laterFields {fields : List (String × Value)} (h : ∀ field ∈ fields, field.2.Reads)
    (acc : List (String × Value)) (name : String) {frames : List Frame} (rest : List Token)
    (hroom : frames.length < depthLimit) :
    parseFrom .next (.object acc name :: frames) (laterFields fields ++ .closeObject :: rest) =
      if frames.length + (nestingOfFields fields + 1) ≤ depthLimit then
        resume (place (.object ((orderedFields fields).foldl
          (fun acc field => insertPair field.1 field.2 acc) acc)) frames) rest
      else none := by
  induction fields generalizing acc name with
  | nil =>
    rw [nestingOfFields, if_pos (by omega)]
    rfl
  | cons field fields ih =>
    obtain ⟨k, v⟩ := field
    obtain ⟨hv, hfields⟩ := List.forall_mem_cons.1 h
    have hcomma : parseFrom .next (.object acc name :: frames)
        (laterFields ((k, v) :: fields) ++ .closeObject :: rest) =
        parseFrom .value (.object acc k :: frames)
          (v.tokens ++ (laterFields fields ++ .closeObject :: rest)) := by
      rw [laterFields, List.cons_append, List.cons_append, List.cons_append, List.append_assoc]
      rfl
    have hplaced : resume (place v.ordered (.object acc k :: frames))
        (laterFields fields ++ .closeObject :: rest) =
        parseFrom .next (.object (insertPair k v.ordered acc) k :: frames)
          (laterFields fields ++ .closeObject :: rest) := rfl
    rw [hcomma, hv (.object acc k :: frames) _ hroom, hplaced, ih hfields, List.length_cons,
      ite_max, nestingOfFields, orderedFields, List.foldl_cons]

theorem reads_list {items : List Value} (h : ∀ v ∈ items, v.Reads) : (Value.list items).Reads := by
  intro frames rest _
  cases items with
  | nil => exact parseFrom_openList frames (.closeList :: rest)
  | cons v items =>
    obtain ⟨hv, hitems⟩ := List.forall_mem_cons.1 h
    have htokens : (Value.list (v :: items)).tokens ++ rest =
        .openList :: (v.tokens ++ (laterItems items ++ .closeList :: rest)) := by
      simp [Value.tokens]
    rw [htokens, parseFrom_openList, Value.nesting, nestingOfItems, ← ite_max]
    split
    · rename_i hroom
      have hplaced : resume (place v.ordered (.list [] :: frames))
          (laterItems items ++ .closeList :: rest) =
          parseFrom .next (.list [v.ordered] :: frames)
            (laterItems items ++ .closeList :: rest) := rfl
      rw [parseFrom_valueOrEnd, hv (.list [] :: frames) _ hroom, hplaced,
        parseFrom_laterItems hitems _ _ hroom]
      rfl
    · rw [if_neg (by omega)]

theorem reads_object {fields : List (String × Value)} (h : ∀ field ∈ fields, field.2.Reads) :
    (Value.object fields).Reads := by
  intro frames rest _
  cases fields with
  | nil => exact parseFrom_openObject frames (.closeObject :: rest)
  | cons field fields =>
    obtain ⟨k, v⟩ := field
    obtain ⟨hv, hfields⟩ := List.forall_mem_cons.1 h
    have htokens : (Value.object ((k, v) :: fields)).tokens ++ rest =
        .openObject :: .text k :: .colon ::
          (v.tokens ++ (laterFields fields ++ .closeObject :: rest)) := by
      simp [Value.tokens]
    rw [htokens, parseFrom_openObject, Value.nesting, nestingOfFields, ← ite_max]
    split
    · rename_i hroom
      have hnamed : ∀ ts, parseFrom .nameOrEnd (.object [] "" :: frames) (.text k :: .colon :: ts) =
          parseFrom .value (.object [] k :: frames) ts := fun ts => rfl
      have hplaced : resume (place v.ordered (.object [] k :: frames))
          (laterFields fields ++ .closeObject :: rest) =
          parseFrom .next (.object [(k, v.ordered)] k :: frames)
            (laterFields fields ++ .closeObject :: rest) := rfl
      rw [hnamed, hv (.object [] k :: frames) _ hroom, hplaced,
        parseFrom_laterFields hfields _ _ _ hroom]
      rfl
    · rw [if_neg (by omega)]

theorem Value.Plain.reads {v : Value} (h : v.Plain) : v.Reads := by
  induction h with
  | null => exact fun frames rest hframes => (if_pos hframes).symm
  | bool b => exact fun frames rest hframes => (if_pos hframes).symm
  | text s => exact fun frames rest hframes => (if_pos hframes).symm
  | list _ ih => exact reads_list ih
  | object _ _ ih => exact reads_object ih

/-! ## The same depth in another order -/

theorem nestingOfItems_map {items : List Value} {f : Value → Value}
    (h : ∀ v ∈ items, (f v).nesting = v.nesting) :
    nestingOfItems (items.map f) = nestingOfItems items := by
  induction items with
  | nil => rfl
  | cons v rest ih =>
    obtain ⟨hv, hrest⟩ := List.forall_mem_cons.1 h
    rw [List.map_cons, nestingOfItems, nestingOfItems, hv, ih hrest]

theorem toList_ofList_perm {fields : List (String × Value)} (hnames : (fields.map (·.1)).Nodup) :
    (KeyMap.ofList (orderedFields fields)).toList.Perm (orderedFields fields) := by
  have hsame : (orderedFields fields).map (·.1) = fields.map (·.1) := by
    simp [orderedFields_eq_map]
  exact KeyMap.toList_insertAll_empty_perm (hsame ▸ hnames)

theorem nestingOfFields_congr {fields others : List (String × Value)}
    (h : ∀ n, (∀ field ∈ fields, field.2.nesting ≤ n) ↔ ∀ field ∈ others, field.2.nesting ≤ n) :
    nestingOfFields fields = nestingOfFields others := by
  have hle : ∀ n, nestingOfFields fields ≤ n ↔ nestingOfFields others ≤ n := by
    intro n
    rw [nestingOfFields_le_iff, nestingOfFields_le_iff, h n]
  exact Nat.le_antisymm ((hle _).2 (Nat.le_refl _)) ((hle _).1 (Nat.le_refl _))

theorem Value.Plain.nesting_ordered {v : Value} (h : v.Plain) : v.ordered.nesting = v.nesting := by
  induction h with
  | null => rfl
  | bool b => rfl
  | text s => rfl
  | list _ ih => rw [ordered, nesting, nesting, orderedItems_eq_map, nestingOfItems_map ih]
  | @object fields hnames _ ih =>
    rw [ordered, ofFields_eq_ofList, nesting, nesting, Nat.add_right_cancel_iff]
    refine nestingOfFields_congr fun n => ?_
    have hmem : ∀ pair, pair ∈ (KeyMap.ofList (orderedFields fields)).toList ↔
        pair ∈ fields.map fun field => (field.1, field.2.ordered) := by
      intro pair
      rw [(toList_ofList_perm hnames).mem_iff, orderedFields_eq_map]
    simp only [hmem, List.forall_mem_map]
    constructor
    · exact fun hall field hfield => ih field hfield ▸ hall field hfield
    · exact fun hall field hfield => (ih field hfield).symm ▸ hall field hfield

/-! ## Values that are in order -/

namespace Value.Arranges

theorem null : Arranges .null .null := ⟨.null, rfl⟩

theorem bool (b : Bool) : Arranges (.bool b) (.bool b) := ⟨.bool b, rfl⟩

theorem text (s : String) : Arranges (.text s) (.text s) := ⟨.text s, rfl⟩

theorem list_nil : Arranges (.list []) (.list []) := ⟨.list nofun, rfl⟩

theorem list_cons {doc v : Value} {docs items : List Value} (h : doc.Arranges v)
    (hrest : Arranges (.list docs) (.list items)) :
    Arranges (.list (doc :: docs)) (.list (v :: items)) := by
  obtain ⟨hplain, hordered⟩ := hrest
  cases hplain with
  | list hdocs =>
    refine ⟨.list (List.forall_mem_cons.2 ⟨h.plain, hdocs⟩), ?_⟩
    have hitems : orderedItems docs = items := Value.list.inj hordered
    rw [Value.ordered, orderedItems, h.ordered, hitems]

theorem list_map {α : Type} {arrange write : α → Value} {xs : List α}
    (h : ∀ x ∈ xs, (arrange x).Arranges (write x)) :
    Arranges (.list (xs.map arrange)) (.list (xs.map write)) := by
  induction xs with
  | nil => exact list_nil
  | cons x rest ih =>
    obtain ⟨hx, hrest⟩ := List.forall_mem_cons.1 h
    exact list_cons hx (ih hrest)

theorem object {fields : List (String × Value)} (hascending : Ascending fields)
    (h : ∀ field ∈ fields, field.2.Arranges field.2) :
    Arranges (.object fields) (.object fields) := by
  refine ⟨.object hascending.nodup_keys fun field hfield => (h field hfield).plain, ?_⟩
  have hfields : orderedFields fields = fields := by
    rw [orderedFields_eq_map]
    have hsame : ∀ field ∈ fields, (field.1, field.2.ordered) = id field := fun field hfield =>
      Prod.ext rfl (h field hfield).ordered
    exact (List.map_congr_left hsame).trans (List.map_id fields)
  rw [Value.ordered, hfields, ofFields_eq_ofList]
  exact congrArg (fun map => Value.object map.toList) (KeyMap.ofList_toList ⟨fields, hascending⟩)

end Value.Arranges

/-- Fields whose values arrange the values of the fields with the same names. -/
inductive ArrangeFields : List (String × Value) → List (String × Value) → Prop
  | nil : ArrangeFields [] []
  | cons (k : String) {doc v : Value} {docs fields : List (String × Value)}
      (h : doc.Arranges v) (hrest : ArrangeFields docs fields) :
      ArrangeFields ((k, doc) :: docs) ((k, v) :: fields)

theorem ArrangeFields.plain {docs fields : List (String × Value)} (h : ArrangeFields docs fields) :
    ∀ doc ∈ docs, doc.2.Plain := by
  induction h with
  | nil => exact nofun
  | cons k hdoc _ ih => exact List.forall_mem_cons.2 ⟨hdoc.plain, ih⟩

theorem ArrangeFields.ordered {docs fields : List (String × Value)}
    (h : ArrangeFields docs fields) : orderedFields docs = fields := by
  induction h with
  | nil => rfl
  | cons k hdoc _ ih => rw [orderedFields, hdoc.ordered, ih]

/-- A record may be written with its fields in another order. -/
theorem Value.Arranges.record {docs fields sorted : List (String × Value)}
    (h : ArrangeFields docs fields) (hnames : (docs.map (·.1)).Nodup)
    (hsorted : ofFields fields = .object sorted) : Arranges (.object docs) (.object sorted) := by
  refine ⟨.object hnames h.plain, ?_⟩
  rw [Value.ordered, h.ordered, hsorted]

/-- A value in order arranges itself. -/
theorem Value.Plain.arranges_ordered {doc : Value} (h : doc.Plain) :
    doc.ordered.Arranges doc.ordered := by
  induction h with
  | null => exact .null
  | bool b => exact .bool b
  | text s => exact .text s
  | list _ ih =>
    rw [ordered, orderedItems_eq_map]
    exact .list_map ih
  | @object fields hnames _ ih =>
    rw [ordered, ofFields_eq_ofList]
    refine .object (KeyMap.ofList (orderedFields fields)).ascending ?_
    have hpairs : ∀ pair ∈ orderedFields fields, pair.2.Arranges pair.2 := by
      rw [orderedFields_eq_map]
      exact List.forall_mem_map.2 ih
    exact fun pair hpair => hpairs pair ((toList_ofList_perm hnames).mem_iff.1 hpair)

theorem Value.Arranges.self {doc v : Value} (h : doc.Arranges v) : v.Arranges v :=
  h.ordered ▸ h.plain.arranges_ordered

/-! ## Whole texts -/

/-- What arranges a value reads as that value, in both layouts, unless it is too deep. -/
theorem Value.Arranges.read?_eq {doc v : Value} (h : doc.Arranges v) {text : String}
    (htext : text = doc.compact ∨ text = doc.pretty) :
    read? text = if v.nesting ≤ depthLimit then some v else none := by
  have hlex : lex text = some doc.tokens := by
    rcases htext with rfl | rfl
    · exact h.plain.lex_compact
    · exact h.plain.lex_pretty
  have hparse := h.plain.reads [] [] (Nat.zero_le _)
  rw [List.append_nil, List.length_nil, Nat.zero_add, ← h.plain.nesting_ordered, h.ordered]
    at hparse
  rw [read?, hlex, Option.bind_some, hparse]
  rfl

end SampleForge.Json
