import SampleForge.Proofs.KeyMap
import SampleForge.Proofs.Product.Moment
import SampleForge.Proofs.Sample.Clock
import SampleForge.Proofs.Session.Generate

/-!
# What a session sees of the clock

A product is read at the moment of the run.  With a frozen timestamp in the settings this moment
does not matter (`readProduct_congr`), and neither does the timestamp that the product file gives,
if it gives one.  What follows the reading depends on the product alone, so all of the work of
`generate` that needs no writing is the same (`plan_congr`).
-/

namespace SampleForge

open CommandLine (GenerateOptions)
open Json (Value)
open Orchestrator (ReportAlike builtIn)
open Outcome
open Product (SameButTimestamp givenTimestamps timestampField withoutTimestamp)

/-! ## The language of a product -/

namespace Session

theorem language_ne_timestampField : "language" ≠ timestampField := by decide

theorem withoutTimestamp_withLanguage (language : Language) (v : Value) :
    withoutTimestamp (withLanguage language v) = withLanguage language (withoutTimestamp v) := by
  cases v with
  | object fields =>
    have hfound : findPair? "language" (fields.filter fun field => field.1 ≠ timestampField) =
        findPair? "language" fields :=
      findPair?_filter (fun _ => decide_eq_true language_ne_timestampField) fields
    have hinsert : (insertPair "language" (Value.text language.word) fields).filter
          (fun field => field.1 ≠ timestampField) =
        insertPair "language" (.text language.word)
          (fields.filter fun field => field.1 ≠ timestampField) := by
      refine filter_insertPair_of_pos (decide_eq_true language_ne_timestampField)
        (fun pair hpair => ?_) fields
      have hname : pair.1 = timestampField := by simpa using hpair
      rw [hname]
      decide
    rw [withLanguage, withoutTimestamp, withoutTimestamp, withLanguage, hfound]
    cases findPair? "language" fields with
    | none => exact congrArg Value.object hinsert
    | some found => rfl
  | null | bool b | int n | real x | text s | list items => rfl

theorem givenTimestamps_withLanguage (language : Language) (v : Value) :
    givenTimestamps (withLanguage language v) = givenTimestamps v := by
  cases v with
  | object fields =>
    have hinsert : (insertPair "language" (Value.text language.word) fields).filter
          (fun field => field.1 = timestampField) =
        fields.filter fun field => field.1 = timestampField :=
      filter_insertPair_of_neg (fun _ => decide_eq_false language_ne_timestampField) fields
    rw [withLanguage, givenTimestamps, givenTimestamps]
    cases findPair? "language" fields with
    | none => exact congrArg (List.map (·.2)) hinsert
    | some found => rfl
  | null | bool b | int n | real x | text s | list items => rfl

theorem withLanguage_alike {v v' : Value} (h : SameButTimestamp v v') (language : Language) :
    SameButTimestamp (withLanguage language v) (withLanguage language v') where
  rest := by rw [withoutTimestamp_withLanguage, withoutTimestamp_withLanguage, h.rest]
  readable := by
    rw [givenTimestamps_withLanguage, givenTimestamps_withLanguage]
    exact h.readable

/-! ## Reading and planning -/

/-- A path from the workspace leads to a file that holds a JSON value. -/
def HoldsJson (s : Session) (tree : FileTree) (path : String) (v : Value) : Prop :=
  ∃ text, tree.readText (s.resolve path) = .ok text ∧ Json.read? text = some v

section Frozen

variable {s : Session} {around around' : Surroundings} {v v' : Value} {t : Timestamp}

theorem readProduct_of_frozen {settings : GenerationSettings} {path : String}
    (hfrozen : settings.frozenTimestamp = some t) (h : s.HoldsJson around.tree path v) :
    s.readProduct around settings path = settings.targetLanguage >>= fun language =>
      ((Product.read around.now (withLanguage language v)).map (·.atMoment t)).mapError
        fun fault => .serialization (.mismatch fault) := by
  obtain ⟨text, htext, hv⟩ := h
  rw [readProduct, htext]
  simp only [Except.mapError, bind_ok, hv, hfrozen, Option.getD_some]
  cases settings.targetLanguage with
  | error e => rfl
  | ok language =>
    simp only [bind_ok]
    cases Product.read around.now (withLanguage language v) with
    | error e => rfl
    | ok product => rfl

/-- With a frozen timestamp, a product is the same at every moment and with every timestamp. -/
theorem readProduct_congr {settings : GenerationSettings} {path : String}
    (hfrozen : settings.frozenTimestamp = some t) (h : s.HoldsJson around.tree path v)
    (h' : s.HoldsJson around'.tree path v') (halike : SameButTimestamp v v') :
    s.readProduct around settings path = s.readProduct around' settings path := by
  rw [readProduct_of_frozen hfrozen h, readProduct_of_frozen hfrozen h']
  congr 1
  funext language
  rw [Product.read_atMoment (withLanguage_alike halike language) around.now around'.now t]

/-- So is all of the work that needs no writing. -/
theorem plan_congr {o : GenerateOptions}
    (hfrozen : s.settings.generation.frozenTimestamp = some t)
    (h : s.HoldsJson around.tree o.product v) (h' : s.HoldsJson around'.tree o.product v')
    (halike : SameButTimestamp v v') : s.plan around o = s.plan around' o := by
  have hproduct : s.readProduct around (s.settingsFor o).generation o.product =
      s.readProduct around' (s.settingsFor o).generation o.product :=
    readProduct_congr hfrozen h h' halike
  rw [plan, plan, Settings.validated]
  split
  · simp only [bind_ok, hproduct]
  · simp only [bind_error]

end Frozen

/-- Only the manifest sees the clock.  Runs for products that differ in the timestamp alone agree in
all but the moment that the manifest holds.  With a frozen timestamp there is no such difference:
whatever the moment and whatever timestamp the product file gives, the plan of `generate` is the
same, its files and their fingerprint included, and so is what `generate` prints. -/
theorem only_manifest_sees_clock :
    (∀ (product : Product) (t : Timestamp) (selection : Selection) (diagnostics : List Diagnostic),
        Agree (ReportAlike (SameButMoment product.language product.timestamp t))
          ((builtIn product).run selection diagnostics)
          ((builtIn (product.atMoment t)).run selection diagnostics)) ∧
      ∀ (s : Session) (o : GenerateOptions) (around around' : Surroundings) (t : Timestamp)
        (v v' : Value), s.settings.generation.frozenTimestamp = some t →
          s.HoldsJson around.tree o.product v → s.HoldsJson around'.tree o.product v' →
          SameButTimestamp v v' →
            s.plan around o = s.plan around' o ∧
              ∀ shown shown', (s.execute around (.generate o)).2 = .ok shown →
                (s.execute around' (.generate o)).2 = .ok shown' → shown = shown' := by
  refine ⟨builtIn_agree, fun s o around around' t v v' hfrozen h h' halike => ?_⟩
  have hplan := plan_congr hfrozen h h' halike
  refine ⟨hplan, fun shown shown' hshown hshown' => ?_⟩
  obtain ⟨p, hp, rfl⟩ := exists_plan_of_generate hshown
  obtain ⟨p', hp', rfl⟩ := exists_plan_of_generate hshown'
  rw [← hplan, hp] at hp'
  cases hp'
  rfl

/-- A session in a workspace, with a frozen timestamp. -/
def frozenSession : Session := ⟨"/w", { generation := { frozenTimestamp := some ⟨0, 0⟩ } }⟩

theorem holdsJson_of_read {product : String} {v : Value} (hv : Json.read? product = some v)
    (htext : (workspaceTree product).readText "/w/product.json" = .ok product) :
    frozenSession.HoldsJson (workspaceTree product) "product.json" v :=
  ⟨product, htext, hv⟩

/-- A product without a timestamp and one with a timestamp, a day later. -/
theorem same_plan_a_day_later :
    let around : Surroundings := {
      tree := workspaceTree "\x7b\"package_name\": \"library.v1\"\x7d", now := ⟨0, 0⟩ }
    let around' : Surroundings := {
      tree := workspaceTree ("\x7b\"generation_timestamp\": \"2019-08-01T02:30:00Z\", " ++
        "\"package_name\": \"library.v1\"\x7d"), now := ⟨86400, 0⟩ }
    (frozenSession.plan around { product := "product.json" }).toOption.isSome = true ∧
      frozenSession.plan around { product := "product.json" } =
        frozenSession.plan around' { product := "product.json" } := by
  intro around around'
  refine ⟨by decide +kernel, ?_⟩
  refine (only_manifest_sees_clock.2 frozenSession { product := "product.json" } around around'
    ⟨0, 0⟩ (.object [("package_name", .text "library.v1")])
    (.object [("generation_timestamp", .text "2019-08-01T02:30:00Z"),
      ("package_name", .text "library.v1")]) rfl (holdsJson_of_read rfl rfl)
    (holdsJson_of_read rfl rfl) ⟨rfl, ?_⟩).1
  exact List.forall_mem_singleton.2 ⟨⟨1564626600, 0⟩, rfl⟩

end Session

end SampleForge
