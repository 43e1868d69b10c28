import SampleForge.Proofs.Orchestrator.Agreement
import SampleForge.Proofs.Product.Moment
import SampleForge.Proofs.Sample.ImportSection

/-!
# What generators see of the clock

Of the generators that every product has, only the one of the manifest looks at the timestamp of the
product.  It writes the timestamp into one line (`Manifest.write_eq`).  Import sections and
packaging files are the same for every timestamp, so runs for two timestamps agree in all but the
body of the manifest, and there in all but this line (`builtIn_agree`).
-/

namespace SampleForge

open Orchestrator (RegistrationAlike ReportAlike Stable builtIn)
open Outcome (Agree)
open Toml (Document Plain writeFields writeText)

theorem SameClient.atMoment (product : Product) (t : Timestamp) :
    SameClient product (product.atMoment t) :=
  ⟨rfl, rfl, rfl⟩

/-! ## The manifest -/

theorem Toml.Document.write_append (first rest : List (String × Plain)) (listName : String)
    (tables : List (List (String × Plain))) :
    Document.write ⟨first ++ rest, listName, tables⟩ =
      writeFields first ++ Document.write ⟨rest, listName, tables⟩ := by
  simp only [Document.write, writeFields, List.map_append, String.join_append, String.append_assoc]

namespace Manifest

/-- The line of a manifest that holds a moment. -/
def momentLine (t : Timestamp) : String := "generated_at = " ++ writeText t.text ++ "\n"

theorem writeFields_moment (t : Timestamp) :
    writeFields [("generated_at", .text t.text)] = momentLine t := by
  rw [writeFields, List.map_singleton, String.join_cons, String.join_nil, String.append_empty]
  rfl

/-- The moment of a manifest stands in one line. -/
theorem write_eq (language : Language) (product : Product) :
    ∃ before after, ∀ t,
      (document language (product.atMoment t)).write = before ++ momentLine t ++ after := by
  let doc := document language product
  refine ⟨writeFields (doc.fields.take 5), Document.write ⟨[], doc.listName, doc.tables⟩,
    fun t => ?_⟩
  -- The moment is the last field.
  have hfields : document language (product.atMoment t) =
      ⟨doc.fields.take 5 ++ ([("generated_at", .text t.text)] ++ []), doc.listName, doc.tables⟩ :=
    rfl
  rw [hfields, Document.write_append, Document.write_append, writeFields_moment,
    String.append_assoc]

end Manifest

/-! ## Contents -/

/-- Contents under a path that are the same at two moments, or bodies of the manifest that differ
in the moment alone. -/
inductive SameButMoment (language : Language) (t t' : Timestamp) :
    String → Content → Content → Prop where
  | same (path : String) (content : Content) : SameButMoment language t t' path content content
  | manifest (before after : String) :
      SameButMoment language t t' (Manifest.path language)
        (.text (before ++ Manifest.momentLine t ++ after))
        (.text (before ++ Manifest.momentLine t' ++ after))

namespace SameButMoment

variable {language : Language} {t t' : Timestamp}

theorem stable : Stable (SameButMoment language t t') := by
  intro given path content content' hnormal h
  cases h with
  | same => exact .same path content
  | manifest before after =>
    have hpath : path = Manifest.path language :=
      (Except.ok.inj ((Manifest.normalize_path language).symm.trans hnormal)).symm
    subst hpath
    exact .manifest before after

end SameButMoment

/-! ## Runs -/

section Runs

variable (product : Product) (t : Timestamp)

/-- A generator that makes the same files at two moments. -/
theorem registrationAlike_of_eq {R : String → Content → Content → Prop}
    (hR : ∀ path content, R path content content) {kind : ArtifactKind} {a b : Generator}
    (hname : a.name = b.name) (hinputs : a.inputs = b.inputs)
    (hgenerate : a.generate product = b.generate (product.atMoment t)) :
    RegistrationAlike R product (product.atMoment t) ⟨kind, a⟩ ⟨kind, b⟩ where
  kind := rfl
  name := hname
  inputs := hinputs
  generate := by
    rw [hgenerate]
    exact .refl (KeyMap.Matches.refl hR) _

theorem registrationAlike_manifest :
    RegistrationAlike (SameButMoment product.language product.timestamp t) product
      (product.atMoment t) ⟨.samples, Manifest.generator product⟩
      ⟨.samples, Manifest.generator (product.atMoment t)⟩ where
  kind := rfl
  name := rfl
  inputs := rfl
  generate := by
    obtain ⟨before, after, hwrite⟩ := Manifest.write_eq product.language product
    have hnow : (Manifest.document product.language product).write =
        before ++ Manifest.momentLine product.timestamp ++ after := hwrite product.timestamp
    have hthen : (Manifest.document (product.atMoment t).language (product.atMoment t)).write =
        before ++ Manifest.momentLine t ++ after := hwrite t
    refine .ok (KeyMap.Matches.empty.insert ?_)
    rw [hnow, hthen]
    exact .manifest before after

/-- Packaging files are the same for every moment. -/
theorem registrationAlike_packaging {packaging : Generator}
    (h : Generator.packaging? product = some packaging) :
    RegistrationAlike (SameButMoment product.language product.timestamp t) product
      (product.atMoment t) ⟨.surface, packaging⟩ ⟨.surface, packaging⟩ := by
  refine registrationAlike_of_eq product t .same rfl rfl ?_
  rw [Generator.packaging?] at h
  split at h
  · cases h
  · cases h
    rfl

/-- Import sections are the same for every moment. -/
theorem registrationAlike_sections :
    RegistrationAlike (SameButMoment product.language product.timestamp t) product
      (product.atMoment t) ⟨.samples, ImportSection.generator product⟩
      ⟨.samples, ImportSection.generator (product.atMoment t)⟩ :=
  registrationAlike_of_eq product t .same rfl rfl
    (ImportSection.generate_congr (SameClient.atMoment product t) rfl)

theorem registrations_alike :
    List.Forall₂ (RegistrationAlike (SameButMoment product.language product.timestamp t) product
      (product.atMoment t)) (builtIn product).registrations
      (builtIn (product.atMoment t)).registrations := by
  have hpackaging : Generator.packaging? (product.atMoment t) = Generator.packaging? product := rfl
  rw [builtIn, builtIn, hpackaging]
  refine List.rel_append ?_ (.cons (registrationAlike_sections product t)
    (.cons (registrationAlike_manifest product t) .nil))
  cases h : Generator.packaging? product with
  | none => exact .nil
  | some packaging => exact .cons (registrationAlike_packaging product t h) .nil

/-- Runs of the generators that every product has agree at two moments. -/
theorem builtIn_agree (selection : Selection) (diagnostics : List Diagnostic) :
    Agree (ReportAlike (SameButMoment product.language product.timestamp t))
      ((builtIn product).run selection diagnostics)
      ((builtIn (product.atMoment t)).run selection diagnostics) :=
  Orchestrator.run_agree SameButMoment.stable (registrations_alike product t) diagnostics

end Runs

end SampleForge
