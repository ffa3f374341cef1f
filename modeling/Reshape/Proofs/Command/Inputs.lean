import Reshape.Command.Inputs
import Reshape.Proofs.Catalog
import Reshape.Proofs.Command.Outcome

namespace Reshape.Command

/-- The catalog that a command names, or else the settings do, holds these types. -/
def Loads (catalog : Option String) (s : Scene) (types : List Descriptor) : Prop :=
  ∃ file, catalogFile catalog s.settings = .ok file ∧ Catalog.load s.files file = .ok types

theorem fst_loadEngine_of_load {s : Scene} {types : List Descriptor} {file : String}
    {switches : Switches} {engine : Engine} (hload : Catalog.load s.files file = .ok types)
    (hb : Engine.build { types, switches } = .ok engine) :
    (loadEngine file switches s).1 = .ok engine := by
  have hfile : s.files.has file = true := Catalog.has_of_load hload
  unfold loadEngine
  simp [hfile, hload, hb]

theorem noBuildError_readInput (file : Option String) (s : Scene) :
    NoBuildError (readInput file s).1 := by
  unfold readInput
  rw [Action.fst_bind, Action.fst_scene, Outcome.ok_bind]
  cases file.filter fun name => !FileName.isDash name with
  | none => exact .ok _
  | some name =>
    cases hfind : s.files.find? name with
    | none => simpa [hfind] using .error rfl
    | some entry =>
      cases entry with
      | text content => simpa [hfind] using .ok _
      | other => simpa [hfind] using .error rfl
      | directory => simpa [hfind] using .error rfl

theorem noBuildError_valuesFrom (number : Nat) (lines : List (List Char)) :
    NoBuildError (Records.valuesFrom number lines) := by
  induction lines generalizing number with
  | nil => exact .ok _
  | cons line lines ih =>
    unfold Records.valuesFrom
    split
    · exact ih (number + 1)
    · split
      · exact .error rfl
      · exact (ih (number + 1)).map _

theorem fst_readRecords (form : Records.Notation) (text : String) (s : Scene) :
    (readRecords form text s).1 = Records.read form text := by
  unfold readRecords
  simp

theorem noBuildError_readRecords (form : Records.Notation) (text : String) (s : Scene) :
    NoBuildError (readRecords form text s).1 := by
  have hlines : NoBuildError (Records.readLines text) := (noBuildError_valuesFrom 1 _).map _
  have hread : NoBuildError (Records.read form text) := by
    unfold Records.read Records.readJson
    split
    · exact hlines
    · split
      · exact .ok _
      · split
        · exact hlines
        · exact .error rfl
    · split
      · exact .ok _
      · exact .error rfl
  rw [fst_readRecords]
  exact hread

end Reshape.Command
