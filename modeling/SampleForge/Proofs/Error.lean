import SampleForge.Error
import SampleForge.Proofs.Text.Pieces

/-!
# What the text of an error tells

Errors nest: right under an error lies one other at most, and under that the next.  `Under` says so
without the list that `causes` makes, and `mem_causes_iff` is the agreement of the two.

The wording of an error ends with the wording of what lies right under it (`message_of_source`), so
it ends with the wording of everything under it (`Under.message_ends`).  A cause therefore never has
to be added, and the text for a terminal is the wording alone (`mapped_tells_every_cause`).
-/

namespace SampleForge

open Text (occursIn occursIn_iff)

/-- What can lie under an error: an error again, or what made it. -/
inductive Cause where
  | run (e : GenerationError)
  | view (e : ViewError)
  | file (fault : FileFault)

namespace Cause

/-- The wording of a cause. -/
def message : Cause → String
  | .run e => e.message
  | .view e => e.message
  | .file fault => fault.message

/-- What lies right under a cause. -/
def source? : Cause → Option Cause
  | .run (.generatorFailed _ cause) => some (.run cause)
  | .run (.view cause) => some (.view cause)
  | .run (.file fault) => some (.file fault)
  | _ => none

/-- The second cause lies under the first, right under it or further down. -/
inductive Under : Cause → Cause → Prop where
  | direct {c d : Cause} (h : c.source? = some d) : Under c d
  | deeper {c d b : Cause} (h : c.source? = some d) (rest : Under d b) : Under c b

theorem not_under_of_source {c b : Cause} (h : c.source? = none) : ¬Under c b := by
  rintro (hd | ⟨hd, -⟩)
  · cases h.symm.trans hd
  · cases h.symm.trans hd

/-- Under a cause lie what is right under it, and what lies under that. -/
theorem under_iff_of_source {c d b : Cause} (h : c.source? = some d) :
    Under c b ↔ b = d ∨ Under d b := by
  constructor
  · rintro (hb | ⟨hd, hrest⟩)
    · exact .inl (Option.some.inj (hb.symm.trans h))
    · exact .inr (Option.some.inj (hd.symm.trans h) ▸ hrest)
  · rintro (rfl | hrest)
    · exact .direct h
    · exact .deeper h hrest

/-- A wording ends with the wording of what lies right under it. -/
theorem message_of_source {c d : Cause} (h : c.source? = some d) :
    ∃ start, c.message = start ++ d.message := by
  unfold source? at h
  split at h
  · obtain rfl := Option.some.inj h
    exact ⟨_, rfl⟩
  · obtain rfl := Option.some.inj h
    exact ⟨_, rfl⟩
  · obtain rfl := Option.some.inj h
    exact ⟨_, rfl⟩
  · cases h

/-- A wording ends with the wording of everything that lies under it. -/
theorem Under.message_ends {c d : Cause} (h : Under c d) :
    ∃ start, c.message = start ++ d.message := by
  induction h with
  | direct h => exact message_of_source h
  | deeper h _ ih =>
    obtain ⟨first, hfirst⟩ := message_of_source h
    obtain ⟨second, hsecond⟩ := ih
    exact ⟨first ++ second, by rw [hfirst, hsecond, String.append_assoc]⟩

theorem Under.occursIn_message {c d : Cause} (h : Under c d) :
    occursIn d.message c.message = true := by
  obtain ⟨start, hstart⟩ := h.message_ends
  exact occursIn_iff.2 ⟨start, "", by rw [hstart, String.append_empty]⟩

end Cause

namespace GenerationError

open Cause (Under not_under_of_source under_iff_of_source)

/-- The listed causes are the wordings of what lies under an error. -/
theorem mem_causes_iff {e : GenerationError} {text : String} :
    text ∈ e.causes ↔ ∃ c, Under (.run e) c ∧ c.message = text := by
  induction e with
  | generatorFailed generator cause ih =>
    have hsource : (Cause.run (.generatorFailed generator cause)).source? = some (.run cause) := rfl
    simp only [causes, List.mem_cons, ih, under_iff_of_source hsource]
    constructor
    · rintro (rfl | ⟨c, hc, rfl⟩)
      · exact ⟨.run cause, .inl rfl, rfl⟩
      · exact ⟨c, .inr hc, rfl⟩
    · rintro ⟨c, rfl | hc, rfl⟩
      · exact .inl rfl
      · exact .inr ⟨c, hc, rfl⟩
  | view cause =>
    have hsource : (Cause.run (.view cause)).source? = some (.view cause) := rfl
    have hleaf (c : Cause) : ¬Under (.view cause) c := not_under_of_source rfl
    simp [causes, under_iff_of_source hsource, hleaf, Cause.message, eq_comm]
  | file fault =>
    have hsource : (Cause.run (.file fault)).source? = some (.file fault) := rfl
    have hleaf (c : Cause) : ¬Under (.file fault) c := not_under_of_source rfl
    simp [causes, under_iff_of_source hsource, hleaf, Cause.message, eq_comm]
  | _ =>
    refine iff_of_false List.not_mem_nil ?_
    rintro ⟨c, hc, -⟩
    exact not_under_of_source rfl hc

/-- A text that shows every one of some causes stays as it is when they are added. -/
theorem foldl_addCause {text : String} {found : List String}
    (h : ∀ cause ∈ found, occursIn cause text = true) : found.foldl addCause text = text := by
  induction found with
  | nil => rfl
  | cons cause found ih =>
    rw [List.foldl_cons, addCause, if_pos (h cause List.mem_cons_self)]
    exact ih fun other hother => h other (List.mem_cons_of_mem _ hother)

/-- The failures of generators one in another are told one behind the other. -/
theorem message_of_nested (generators : List String) (root : GenerationError) :
    (generators.foldr .generatorFailed root).message =
      String.join (generators.map fun g => "Generator '" ++ g ++ "' failed: ") ++ root.message := by
  induction generators with
  | nil => rw [List.map_nil, String.join_nil, String.empty_append]; rfl
  | cons g generators ih =>
    have hstep : (generatorFailed g (generators.foldr .generatorFailed root)).message =
        "Generator '" ++ g ++ "' failed: " ++ (generators.foldr .generatorFailed root).message :=
      rfl
    rw [List.foldr_cons, hstep, ih, List.map_cons, String.join_cons]
    simp only [String.append_assoc]

/-- The text for a terminal is the wording of the error, and it tells everything that lies under the
error, in whatever way generators fail one in another around a first error.  At no cause on the way
is a line added. -/
theorem mapped_tells_every_cause (generators : List String) (root : GenerationError) :
    let e : GenerationError := generators.foldr .generatorFailed root
    (∀ c, Under (.run e) c → c.message ∈ e.causes ∧ occursIn c.message e.message = true) ∧
      (∀ text ∈ e.causes, ∃ c, Under (.run e) c ∧ c.message = text) ∧
      (∀ n, (e.causes.take n).foldl addCause e.message = e.message) ∧
      e.mapped = e.message ∧
      e.mapped = String.join (generators.map fun g => "Generator '" ++ g ++ "' failed: ") ++
        root.message := by
  intro e
  have hshown : ∀ text ∈ e.causes, occursIn text e.message = true := fun text htext => by
    obtain ⟨c, hc, rfl⟩ := mem_causes_iff.1 htext
    exact hc.occursIn_message
  have hmapped : e.mapped = e.message := foldl_addCause hshown
  refine ⟨fun c hc => ⟨mem_causes_iff.2 ⟨c, hc, rfl⟩, hc.occursIn_message⟩,
    fun text htext => mem_causes_iff.1 htext, fun n => ?_, hmapped, ?_⟩
  · exact foldl_addCause fun text htext => hshown text (List.mem_of_mem_take htext)
  · rw [hmapped]
    exact message_of_nested generators root

end GenerationError

end SampleForge
