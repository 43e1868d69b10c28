import SampleForge.Json.Reader

/-!
# Fields in order

The fields of an object ascend by their names, so no name occurs twice.  A value is *proper* when
that is so of every object in it (`Value.Proper`).  The reader gives proper values only
(`read?_proper`), since each token keeps what stands on the stack proper (`sound_of_parseStep`).
-/

namespace SampleForge.Json

/-! ## Proper values -/

/-- Values with the fields of every object in order. -/
inductive Value.Proper : Value → Prop where
  | null : Proper .null
  | bool (b : Bool) : Proper (.bool b)
  | int (n : Int) : Proper (.int n)
  | real (x : Binary64) : Proper (.real x)
  | text (s : String) : Proper (.text s)
  | list {items : List Value} (h : ∀ v ∈ items, Proper v) : Proper (.list items)
  | object {fields : List (String × Value)} (hascending : Ascending fields)
      (h : ∀ field ∈ fields, Proper field.2) : Proper (.object fields)

/-! ## Tokens -/

/-- Tokens whose words are proper. -/
def Token.Proper : Token → Prop
  | .word v => v.Proper
  | _ => True

theorem proper_of_real? {negative : Bool} {whole fraction : List Char} {exponent : Int} {v : Value}
    (h : real? negative whole fraction exponent = some v) : v.Proper := by
  obtain ⟨m, -, rfl⟩ := Option.map_eq_some_iff.1 h
  exact .real _

theorem proper_of_number? {negative : Bool} {cs : List Char} {v : Value}
    (h : number? negative cs = some v) : v.Proper := by
  have hpowers {last : List Char} {whole fraction : List Char}
      (h : (exponent? last).bind (real? negative whole fraction) = some v) : v.Proper := by
    obtain ⟨exponent, -, hreal⟩ := Option.bind_eq_some_iff.1 h
    exact proper_of_real? hreal
  simp only [number?] at h
  split at h
  · cases h
  split at h
  · split at h
    · split at h
      · cases h
        exact .int _
      · exact proper_of_real? h
    · split at h
      · cases h
        exact .int _
      · exact proper_of_real? h
  · split at h
    · cases h
    · exact hpowers h
  · exact hpowers h

theorem proper_of_word? {cs : List Char} {v : Value} (h : word? cs = some v) : v.Proper := by
  unfold word? at h
  split at h
  · cases h
    exact .null
  · split at h
    · cases h
      exact .bool true
    · split at h
      · cases h
        exact .bool false
      · split at h
        · exact proper_of_number? h
        · exact proper_of_number? h

theorem proper_of_mark? {c : Char} {t : Token} (h : mark? c = some t) : t.Proper := by
  unfold mark? at h
  split at h
  all_goals cases h
  all_goals trivial

section Lexing

variable {state state' : LexState} {tokens tokens' : List Token}

theorem proper_of_stepBetween {c : Char} (htokens : ∀ t ∈ tokens, t.Proper)
    (h : stepBetween tokens c = some (state', tokens')) : ∀ t ∈ tokens', t.Proper := by
  unfold stepBetween at h
  split at h
  · cases h
    exact htokens
  split at h
  · cases h
    exact htokens
  split at h
  · cases h
    exact htokens
  · obtain ⟨t, ht, heq⟩ := Option.map_eq_some_iff.1 h
    cases heq
    exact List.forall_mem_cons.2 ⟨proper_of_mark? ht, htokens⟩

theorem proper_of_lexStep {c : Char} (htokens : ∀ t ∈ tokens, t.Proper)
    (h : lexStep state tokens c = some (state', tokens')) : ∀ t ∈ tokens', t.Proper := by
  unfold lexStep at h
  split at h
  · exact proper_of_stepBetween htokens h
  · split at h
    · cases h
      exact htokens
    · obtain ⟨v, hv, h⟩ := Option.bind_eq_some_iff.1 h
      have hword : (Token.word v).Proper := proper_of_word? hv
      exact proper_of_stepBetween (List.forall_mem_cons.2 ⟨hword, htokens⟩) h
  · split at h
    · cases h
      exact List.forall_mem_cons.2 ⟨trivial, htokens⟩
    · obtain ⟨next, -, heq⟩ := Option.map_eq_some_iff.1 h
      cases heq
      exact htokens
  · obtain ⟨next, -, heq⟩ := Option.map_eq_some_iff.1 h
    cases heq
    exact htokens

theorem proper_of_lexFrom {cs : List Char} (htokens : ∀ t ∈ tokens, t.Proper)
    (h : lexFrom state tokens cs = some tokens') : ∀ t ∈ tokens', t.Proper := by
  induction cs generalizing state tokens with
  | nil =>
    unfold lexFrom at h
    split at h
    · cases h
      exact fun t ht => htokens t (List.mem_reverse.1 ht)
    · obtain ⟨v, hv, rfl⟩ := Option.map_eq_some_iff.1 h
      have hword : (Token.word v).Proper := proper_of_word? hv
      intro t ht
      exact List.forall_mem_cons.2 ⟨hword, htokens⟩ t (List.mem_reverse.1 ht)
    · cases h
  | cons c cs ih =>
    unfold lexFrom at h
    split at h
    · rename_i hstep
      exact ih (proper_of_lexStep htokens hstep) h
    · cases h

end Lexing

/-! ## Values -/

/-- Frames whose parts are proper. -/
def Frame.Proper : Frame → Prop
  | .list items => ∀ v ∈ items, v.Proper
  | .object fields _ => Ascending fields ∧ ∀ field ∈ fields, field.2.Proper

theorem proper_emptyList : Frame.Proper (.list []) := List.forall_mem_nil _

theorem proper_emptyObject : Frame.Proper (.object [] "") := ⟨.nil, List.forall_mem_nil _⟩

/-- Proper frames around a place, and a proper value where there is one. -/
structure Sound (expect : Expect) (frames : List Frame) : Prop where
  /-- What is around the place. -/
  frames : ∀ frame ∈ frames, frame.Proper
  /-- The complete value. -/
  done : ∀ v, expect = .done v → v.Proper

section Parsing

variable {expect expect' : Expect} {frames frames' : List Frame}

theorem sound_of_place {v : Value} (hv : v.Proper) (hframes : ∀ frame ∈ frames, frame.Proper)
    (h : some (place v frames) = some (expect', frames')) : Sound expect' frames' := by
  unfold place at h
  split at h
  · cases h
    exact ⟨hframes, by rintro _ ⟨⟩; exact hv⟩
  · cases h
    obtain ⟨hitems, hrest⟩ := List.forall_mem_cons.1 hframes
    have hframe : Frame.Proper (.list (v :: _)) := List.forall_mem_cons.2 ⟨hv, hitems⟩
    exact ⟨List.forall_mem_cons.2 ⟨hframe, hrest⟩, nofun⟩
  · cases h
    obtain ⟨⟨hascending, hfields⟩, hrest⟩ := List.forall_mem_cons.1 hframes
    refine ⟨List.forall_mem_cons.2 ⟨⟨hascending.insertPair, ?_⟩, hrest⟩, nofun⟩
    intro field hfield
    obtain rfl | hfield := mem_insertPair hfield
    · exact hv
    · exact hfields field hfield

theorem sound_of_openFrame {frame : Frame} (hframe : frame.Proper)
    (hframes : ∀ frame ∈ frames, frame.Proper) (hdone : ∀ v, expect ≠ .done v)
    (h : openFrame frame expect frames = some (expect', frames')) : Sound expect' frames' := by
  unfold openFrame at h
  split at h
  · cases h
    exact ⟨List.forall_mem_cons.2 ⟨hframe, hframes⟩, fun v hv => absurd hv (hdone v)⟩
  · cases h

theorem sound_of_startValue {token : Token} (hframes : ∀ frame ∈ frames, frame.Proper)
    (htoken : token.Proper) (h : startValue token frames = some (expect', frames')) :
    Sound expect' frames' := by
  unfold startValue at h
  split at h
  · exact sound_of_openFrame proper_emptyList hframes (by simp) h
  · exact sound_of_openFrame proper_emptyObject hframes (by simp) h
  · exact sound_of_place (.text _) hframes h
  · exact sound_of_place htoken hframes h
  · cases h

/-- Each token keeps what is around the place proper. -/
theorem sound_of_parseStep {token : Token} (hsound : Sound expect frames) (htoken : token.Proper)
    (h : parseStep expect frames token = some (expect', frames')) : Sound expect' frames' := by
  have hframes := hsound.frames
  unfold parseStep at h
  split at h
  · exact sound_of_place (.list (List.forall_mem_nil _)) (List.forall_mem_cons.1 hframes).2 h
  · exact sound_of_startValue hframes htoken h
  · exact sound_of_startValue hframes htoken h
  · have hempty : Value.Proper (.object []) := .object .nil (List.forall_mem_nil _)
    exact sound_of_place hempty (List.forall_mem_cons.1 hframes).2 h
  · cases h
    exact ⟨hframes, nofun⟩
  · cases h
    exact ⟨hframes, nofun⟩
  · cases h
    -- Only the name under which the next value goes is new.
    obtain ⟨hobject, hrest⟩ := List.forall_mem_cons.1 hframes
    exact ⟨List.forall_mem_cons.2 ⟨hobject, hrest⟩, nofun⟩
  · cases h
    exact ⟨hframes, nofun⟩
  · cases h
    exact ⟨hframes, nofun⟩
  · obtain ⟨hitems, hrest⟩ := List.forall_mem_cons.1 hframes
    exact sound_of_place (.list fun v hv => hitems v (List.mem_reverse.1 hv)) hrest h
  · obtain ⟨⟨hascending, hfields⟩, hrest⟩ := List.forall_mem_cons.1 hframes
    exact sound_of_place (.object hascending hfields) hrest h
  · cases h

theorem proper_of_parseFrom {tokens : List Token} {v : Value} (hsound : Sound expect frames)
    (htokens : ∀ t ∈ tokens, t.Proper) (h : parseFrom expect frames tokens = some v) :
    v.Proper := by
  induction tokens generalizing expect frames with
  | nil =>
    unfold parseFrom at h
    split at h
    · cases h
      exact hsound.done v rfl
    · cases h
  | cons token rest ih =>
    obtain ⟨htoken, hrest⟩ := List.forall_mem_cons.1 htokens
    unfold parseFrom at h
    split at h
    · rename_i hstep
      exact ih (sound_of_parseStep hsound htoken hstep) hrest h
    · cases h

end Parsing

/-- Whatever is read is proper. -/
theorem read?_proper {text : String} {v : Value} (h : read? text = some v) : v.Proper := by
  obtain ⟨tokens, hlex, hparse⟩ := Option.bind_eq_some_iff.1 h
  exact proper_of_parseFrom ⟨List.forall_mem_nil _, by simp⟩
    (proper_of_lexFrom (List.forall_mem_nil _) hlex) hparse

end SampleForge.Json
