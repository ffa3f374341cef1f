import Reshape.Proofs.Catalog.Json
import Reshape.Proofs.Command.Effects
import Reshape.Proofs.Command.Map
import Reshape.Proofs.Output
import Reshape.Proofs.Records

namespace Reshape.Command

open Arguments (MapArguments)

/-- The one document that maps are handed over as. -/
inductive Document : Records.Shape → List Json.Members → Json → Prop
  | single (fields : Json.Members) : Document .single [fields] (.object fields)
  | array (maps : List Json.Members) : Document .array maps (.array (maps.map .object))
  | lines (maps : List Json.Members) : Document .lines maps (.array (maps.map .object))

/-- The text that a document is shown with. Records that come as lines of JSON go out as such. -/
def shown (format : OutputFormat) (shape : Records.Shape) (document : Json) : String :=
  match format, shape with
  | .yaml, _ => Output.trimmedLine (Yaml.write document)
  | .json, .lines => OutputFormat.ndjson.render document ++ "\n"
  | format, _ => format.render document ++ "\n"

/-- The counts of a plan that was looked up once, and then once for each of `n` records. -/
def countsOf (cacheEnabled : Bool) (n : ℕ) : Plan.Cache.Stats :=
  if cacheEnabled then ⟨1, n, 1⟩ else ⟨0, 0, n + 1⟩

def shownCounts (asked : Bool) (o : Output) (counts : Plan.Cache.Stats) : Effects :=
  if asked then
    if o.isHuman then { output := o.heading "Plan Cache" ++ o.stats counts }
    else { errors := OutputFormat.json.render (Listing.statsJson counts) ++ "\n" }
  else {}

/-- What the command comes to and does with a document, which is saved or else shown. -/
inductive HandsOver (a : MapArguments) (s : Scene) (shape : Records.Shape) (document : Json)
    (counts : Plan.Cache.Stats) : Except Problem Unit × Effects → Prop
  | saved {name : String} (hfile : a.saveTo = some name) (hcan : s.files.canSave name = true) :
    HandsOver a s shape document counts (.ok (),
      { output := s.output.success ("✓ Output saved to " ++ name)
        saved := [(name, fileText name document)] } ++ shownCounts a.stats s.output counts)
  | refused {name : String} (hfile : a.saveTo = some name)
    (hcan : s.files.canSave name = false) :
    HandsOver a s shape document counts (.error .io, {})
  | shown (hfile : a.saveTo = none) :
    HandsOver a s shape document counts (.ok (),
      { output := shown s.output.format shape document } ++ shownCounts a.stats s.output counts)

variable {s : Scene}

theorem seen_showStats (counts : Plan.Cache.Stats) :
    (showStats counts).seen s = (.ok (), shownCounts true s.output counts) := by
  unfold showStats shownCounts
  rw [Action.Silent.scene.seen_bind (Action.fst_scene s),
    (Action.Silent.log _ _).seen_bind (Action.fst_log s _ _), if_pos rfl]
  split
  · rw [Action.seen_bind_of_ok (Action.fst_tell s _), Action.seen_tell, Action.seen_tell,
      Effects.output_append]
  · exact Action.seen_printError _

theorem silent_mapRecords (engine : Engine) (id : String) (o : Overrides) (records : List Json) :
    (mapRecords engine id o records).Silent s := by
  unfold mapRecords
  exact .bind .scene fun scene => .bind (.logAll _) fun _ => .ofExcept _

theorem seen_deliver_save (name : String) (shape : Records.Shape) (document : Json) :
    (deliver (some name) shape document).seen s =
      if s.files.canSave name then
        (.ok (), { output := s.output.success ("✓ Output saved to " ++ name)
                   saved := [(name, fileText name document)] })
      else (.error .io, {}) := by
  unfold deliver
  rw [Action.Silent.scene.seen_bind (Action.fst_scene s)]
  simp only
  split
  · next hcan =>
    have hsave : (Action.save name (fileText name document) s).1 = .ok () := by simp [hcan]
    rw [Action.seen_bind_of_ok hsave, Action.seen_save, if_pos hcan, Action.seen_tell,
      Effects.saved_append]
  · next hcan =>
    have hsave : (Action.save name (fileText name document) s).1 = .error .io := by simp [hcan]
    rw [Action.seen_bind_of_error hsave, Action.seen_save, if_neg hcan]

/-- What printing data makes of a document, unless lines of JSON are printed as such. -/
theorem data_eq_shown {o : Output} {shape : Records.Shape} {document : Json}
    (h : Output.Mapped document) (hlines : ¬(shape = .lines ∧ o.format = .json)) :
    o.data document = shown o.format shape document := by
  by_cases hyaml : o.format = .yaml
  · unfold Output.data shown
    rw [hyaml]
    rfl
  · rw [Output.data_of_mapped hyaml h]
    unfold shown
    split
    · next hformat => exact absurd hformat hyaml
    · next hformat => exact absurd ⟨rfl, hformat⟩ hlines
    · rfl

theorem seen_deliver_show (shape : Records.Shape) {document : Json}
    (h : Output.Mapped document) : (deliver none shape document).seen s =
      (.ok (), { output := shown s.output.format shape document }) := by
  unfold deliver
  rw [Action.Silent.scene.seen_bind (Action.fst_scene s)]
  simp only [Bool.and_eq_true, decide_eq_true_eq]
  split
  · next hlines =>
    obtain ⟨rfl, hformat⟩ := hlines
    rw [hformat]
    exact Action.seen_print _
  · next hlines => rw [Action.seen_tellData, data_eq_shown h hlines]

theorem seen_shownCounts (asked : Bool) (counts : Plan.Cache.Stats) :
    (if asked then showStats counts else pure () : Action Unit).seen s =
      (.ok (), shownCounts asked s.output counts) := by
  cases asked with
  | false => rfl
  | true => exact seen_showStats counts

theorem handsOver_deliver {a : MapArguments} {shape : Records.Shape} {document : Json}
    (h : Output.Mapped document) (counts : Plan.Cache.Stats) :
    HandsOver a s shape document counts ((do
      deliver a.saveTo shape document
      if a.stats then showStats counts : Action Unit).seen s) := by
  have hcounts := seen_shownCounts (s := s) a.stats counts
  cases hfile : a.saveTo with
  | none =>
    have hdeliver := seen_deliver_show (s := s) shape h
    have hok : (deliver none shape document s).1 = .ok () := congrArg Prod.fst hdeliver
    rw [Action.seen_bind_of_ok hok, hdeliver, hcounts]
    exact .shown hfile
  | some name =>
    have hdeliver := seen_deliver_save (s := s) name shape document
    cases hcan : s.files.canSave name with
    | false =>
      rw [hcan, if_neg (by simp)] at hdeliver
      have herror : (deliver (some name) shape document s).1 = .error .io :=
        congrArg Prod.fst hdeliver
      rw [Action.seen_bind_of_error herror, hdeliver]
      exact .refused hfile hcan
    | true =>
      rw [hcan, if_pos rfl] at hdeliver
      have hok : (deliver (some name) shape document s).1 = .ok () := congrArg Prod.fst hdeliver
      rw [Action.seen_bind_of_ok hok, hdeliver, hcounts]
      exact .saved hfile hcan

theorem fst_readOverrides_input (overrides : Arguments.OverrideArguments) (input : String) :
    (readOverrides overrides { s with input }).1 = (readOverrides overrides s).1 := by
  unfold readOverrides
  simp only [Action.fst_bind, Action.fst_scene, Outcome.ok_bind]
  cases overrides.template <;> simp

theorem mapped_of_document {shape : Records.Shape} {maps : List Json.Members} {document : Json}
    (h : Document shape maps document) : Output.Mapped document := by
  cases h with
  | single fields => exact .one fields
  | array => exact .all maps
  | lines => exact .all maps

theorem document_arrange {shape : Records.Shape} {maps : List Json.Members}
    (h : shape = .single → ∃ fields, maps = [fields]) :
    Document shape maps (Records.arrange shape (maps.map .object)) := by
  cases shape with
  | single =>
    obtain ⟨fields, rfl⟩ := h rfl
    exact .single fields
  | array => exact .array maps
  | lines => exact .lines maps

section

variable {a : MapArguments} {types : List Descriptor} {engine : Engine} {o : Overrides}
  (hload : Loads a.catalog s types)
  (hb : Engine.build { types, switches := mapSwitches a s.settings.engine } = .ok engine)
  (ho : (readOverrides a.overrides s).1 = .ok o)

include hload hb ho

/-- The command comes to a plan with nothing but its catalog and its overrides. -/
theorem seen_map :
    (map a).seen s = (do
      let (_, engine) ← planOf engine a.type o
      Action.log .info "Plan ready"
      let text ← readInput a.input
      let records ← readRecords (.detect a.input a.ndjson) text
      Action.log .info "Mapping records"
      let (mapped, engine) ← mapRecords engine a.type o records.items
      deliver a.saveTo records.shape (Records.arrange records.shape mapped)
      if a.stats then showStats engine.stats : Action Unit).seen s := by
  obtain ⟨file, hfile, hcatalog⟩ := hload
  have hengine := fst_loadEngine_of_load hcatalog hb
  unfold map
  rw [Action.seen_timed, Action.Silent.scene.seen_bind (Action.fst_scene s),
    (Action.Silent.ofExcept _).seen_bind ((Action.fst_ofExcept s _).trans hfile),
    (silent_loadEngine _ _).seen_bind hengine, (silent_readOverrides _).seen_bind ho]

/-- A plan that cannot be built ends the command whatever its input is. -/
theorem seen_map_of_plan_error {error : Error} (h : (engine.plan a.type o).1 = .error error) :
    (map a).seen s = (.error (.core error), {}) := by
  have hplan : (planOf engine a.type o s).1 = .error (.core error) := by
    rw [fst_planOf, h]
    rfl
  rw [seen_map hload hb ho, (silent_planOf _ _ _).seen_bind_error hplan]

variable {plan : Plan} (hplan : (engine.plan a.type o).1 = .ok plan) {text : String}
  {records : Records} (hinput : (readInput a.input s).1 = .ok text)
  (hread : Records.read (.detect a.input a.ndjson) text = .ok records)

include hplan hinput hread

/-- Behind a plan the command reads its records, and then maps them. -/
theorem seen_map_of_read :
    (map a).seen s = (do
      let (mapped, engine) ←
        mapRecords (engine.after [.plan a.type o]) a.type o records.items
      deliver a.saveTo records.shape (Records.arrange records.shape mapped)
      if a.stats then showStats engine.stats : Action Unit).seen s := by
  have hplanOf : (planOf engine a.type o s).1 = .ok (plan, engine.after [.plan a.type o]) := by
    rw [fst_planOf, hplan]
    rfl
  have hrecords := (fst_readRecords (.detect a.input a.ndjson) text s).trans hread
  rw [seen_map hload hb ho, (silent_planOf _ _ _).seen_bind hplanOf]
  simp only
  rw [(Action.Silent.log _ _).seen_bind (Action.fst_log s _ _),
    (silent_readInput _).seen_bind hinput, (silent_readRecords _ _).seen_bind hrecords,
    (Action.Silent.log _ _).seen_bind (Action.fst_log s _ _)]

/-- The first record that fails ends the command, with nothing done before. -/
theorem seen_map_of_record_error {before behind : List Json} {record : Json} {error : Error}
    (hitems : records.items = before ++ record :: behind)
    (hbefore : ∀ earlier ∈ before, ∃ fields,
      (engine.resolve a.type (.ofJson earlier) o).1 = .ok fields)
    (h : (engine.resolve a.type (.ofJson record) o).1 = .error error) :
    (map a).seen s = (.error (.record before.length error), {}) := by
  have hused : Engine.overridesOf [.plan a.type o] ⊆ [o] := List.Subset.refl _
  have hfrom := Engine.resolveFrom_of_fails hb hused 0 hbefore h behind
  have hmapped : (mapRecords (engine.after [.plan a.type o]) a.type o records.items s).1 =
      .error (.record before.length error) := by
    rw [fst_mapRecords, hitems, hfrom, Nat.zero_add]
    rfl
  rw [seen_map_of_read hload hb ho hplan hinput hread,
    (silent_mapRecords _ _ _ _).seen_bind_error hmapped]

/-- Without a record that fails, the maps of all are handed over, and then the counts. -/
theorem handsOver_map {maps : List Json.Members} (hmaps : List.Forall₂ (fun record fields =>
      (engine.resolve a.type (.ofJson record) o).1 = .ok fields) records.items maps) :
    ∃ document, Document records.shape maps document ∧
      HandsOver a s records.shape document
        (countsOf s.settings.engine.cacheEnabled records.items.length) ((map a).seen s) := by
  have hused : Engine.overridesOf [.plan a.type o] ⊆ [o] := List.Subset.refl _
  have hfrom := Engine.resolveFrom_of_forall₂ hb hused 0 hmaps
  have hcounts : (engine.after (.plan a.type o :: Engine.batchOf a.type o records.items)).stats =
      countsOf s.settings.engine.cacheEnabled records.items.length :=
    Engine.stats_after_batch hb hplan records.items
  have hmapped : (mapRecords (engine.after [.plan a.type o]) a.type o records.items s).1 =
      .ok (maps.map .object,
        engine.after (.plan a.type o :: Engine.batchOf a.type o records.items)) := by
    rw [fst_mapRecords, hfrom]
    rfl
  have hdocument : Document records.shape maps
      (Records.arrange records.shape (maps.map .object)) := by
    refine document_arrange fun hshape => ?_
    obtain ⟨record, hitems⟩ := Records.exists_item_of_single hread hshape
    rw [hitems] at hmaps
    cases hmaps with
    | cons _ hrest =>
      cases hrest
      exact ⟨_, rfl⟩
  refine ⟨_, hdocument, ?_⟩
  rw [seen_map_of_read hload hb ho hplan hinput hread,
    (silent_mapRecords _ _ _ _).seen_bind hmapped]
  simp only [hcounts]
  exact handsOver_deliver (mapped_of_document hdocument) _

end

/-- Programs find the document alone on the output, the counts apart from it. -/
theorem output_eq_of_handsOver {a : MapArguments} {shape : Records.Shape} {document : Json}
    {counts : Plan.Cache.Stats} {done : Except Problem Unit × Effects}
    (h : HandsOver a s shape document counts done)
    (hfile : a.saveTo = none) (hformat : s.output.format ≠ .human) :
    done.2.output = shown s.output.format shape document := by
  cases h with
  | saved hname => exact absurd (hname.symm.trans hfile) (by simp)
  | refused hname => exact absurd (hname.symm.trans hfile) (by simp)
  | shown =>
    have hcounts : (shownCounts a.stats s.output counts).output = "" := by
      unfold shownCounts Output.isHuman
      cases a.stats <;> simp [hformat]
    change shown s.output.format shape document ++ _ = _
    rw [hcounts, String.append_empty]

/-- Mapping the records of an input is all or nothing. What a plan fails with is told whatever the
input is; the first record that fails is told by its number, and nothing is shown or saved then;
and if none fails, the maps of all of them go out as one document. Programs are given the text of
that document alone, except that YAML text is cut behind its last visible character. -/
theorem map_all_or_nothing {a : MapArguments} {types : List Descriptor} {engine : Engine}
    {o : Overrides} (hload : Loads a.catalog s types)
    (hb : Engine.build { types, switches := mapSwitches a s.settings.engine } = .ok engine)
    (ho : (readOverrides a.overrides s).1 = .ok o) :
    (∀ error, (engine.plan a.type o).1 = .error error → ∀ file text,
      (map { a with input := file }).seen { s with input := text } = (.error (.core error), {})) ∧
    (∀ plan text records, (engine.plan a.type o).1 = .ok plan →
      (readInput a.input s).1 = .ok text →
      Records.read (.detect a.input a.ndjson) text = .ok records →
      ((∃ record ∈ records.items, ∃ error,
          (engine.resolve a.type (.ofJson record) o).1 = .error error) →
        ∃ before record behind error, records.items = before ++ record :: behind ∧
          (∀ earlier ∈ before, ∃ fields,
            (engine.resolve a.type (.ofJson earlier) o).1 = .ok fields) ∧
          (engine.resolve a.type (.ofJson record) o).1 = .error error ∧
          (map a).seen s = (.error (.record before.length error), {})) ∧
      ((∀ record ∈ records.items, ∃ fields,
          (engine.resolve a.type (.ofJson record) o).1 = .ok fields) →
        ∃ maps document, List.Forall₂ (fun record fields =>
            (engine.resolve a.type (.ofJson record) o).1 = .ok fields) records.items maps ∧
          Document records.shape maps document ∧
          HandsOver a s records.shape document
            (countsOf s.settings.engine.cacheEnabled records.items.length) ((map a).seen s) ∧
          (a.saveTo = none → s.output.format ≠ .human →
            ((map a).seen s).2.output = shown s.output.format records.shape document))) ∧
    ∀ shape document, shown .yaml shape document = Yaml.write document ↔
      ∃ cs, (Yaml.write document).toList = cs ++ ['\n'] ∧ Text.EndsVisible cs := by
  refine ⟨fun error herror file text => ?_, fun plan text records hplan hinput hread => ⟨?_, ?_⟩,
    fun _ _ => Output.trimmedLine_eq_self_iff⟩
  -- the input is neither read for the catalog nor for the overrides
  · have hoverrides := (fst_readOverrides_input (s := s) a.overrides text).trans ho
    exact seen_map_of_plan_error (s := { s with input := text }) (a := { a with input := file })
      hload hb hoverrides herror
  -- some record fails, so the records before the first such one do not
  · rintro ⟨failing, hmem, problem, hfailing⟩
    cases hall : records.items.mapM fun record =>
        (engine.resolve a.type (.ofJson record) o).1 with
    | ok maps =>
      obtain ⟨fields, hfields⟩ := Outcome.exists_mapM_eq_ok.1 ⟨maps, hall⟩ failing hmem
      exact absurd (hfailing.symm.trans hfields) (by simp)
    | error error =>
      obtain ⟨before, record, behind, hitems, hbefore, herror⟩ := Outcome.mapM_eq_error.1 hall
      exact ⟨before, record, behind, error, hitems, hbefore, herror,
        seen_map_of_record_error hload hb ho hplan hinput hread hitems hbefore herror⟩
  · intro hmaps
    obtain ⟨maps, hall⟩ := Outcome.exists_mapM_eq_ok.2 hmaps
    have hpairs := Outcome.mapM_eq_ok.1 hall
    obtain ⟨document, hdocument, hdone⟩ :=
      handsOver_map hload hb ho hplan hinput hread hpairs
    exact ⟨maps, document, hpairs, hdocument, hdone, output_eq_of_handsOver hdone⟩

def memoType : Descriptor := { id := "Memo", fields := [{ name := "a" }] }

/-- A record whose text ends in two line breaks. -/
def memo : Json := .object [("a", .string "x\n\n")]

def memoScene : Scene := {
  files := .ofTexts "/work" [("types.json", (Catalog.entriesJson [memoType]).write)]
  input := memo.write
  output := { format := .yaml } }

def memoArguments : MapArguments := {
  catalog := some "types.json", type := "Memo", input := none, overrides := ⟨none, [], []⟩
  ndjson := false, omitAbsent := false, nullDefault := false, stats := true, saveTo := none }

theorem loads_memo : Loads memoArguments.catalog memoScene [memoType] := by
  have hstorable : (Catalog.entriesJson [memoType]).Storable Json.maxDepth := by
    simp [Catalog.entriesJson, memoType, Descriptor.toJson, Descriptor.unlessEmpty, Field.toJson,
      Json.Members.keys, Json.maxDepth]
  refine ⟨"types.json", rfl, Catalog.load_eq_ok.2 ⟨.json, _, by decide, rfl, ?_⟩⟩
  rw [Catalog.parse_write hstorable]
  exact Catalog.ofJson_of_holds (.inl rfl) (by decide) (List.forall_mem_singleton.2 rfl) (by decide)

/-- The map is printed without the last of the two line breaks. -/
theorem map_all_or_nothing_memo : ∃ engine fields,
    Engine.build { types := [memoType], switches := {} } = .ok engine ∧
    (engine.resolve "Memo" (.ofJson memo) {}).1 = .ok fields ∧
    HandsOver memoArguments memoScene .single (.object fields) ⟨1, 1, 1⟩
      ((map memoArguments).seen memoScene) ∧
    Yaml.write (.object fields) = "a: |+\n  x\n\n" ∧
    ((map memoArguments).seen memoScene).2.output = "a: |+\n  x\n" := by
  obtain ⟨engine, hb⟩ :
      ∃ engine, Engine.build { types := [memoType], switches := {} } = .ok engine := ⟨_, rfl⟩
  have hplan : (engine.plan "Memo" {}).1.isOk = true := by
    obtain rfl := Except.ok.inj hb
    decide +kernel
  obtain ⟨plan, hplan⟩ := Outcome.exists_eq_ok_of_isOk hplan
  have hyaml : (engine.resolve "Memo" (.ofJson memo) {}).1.toOption.map
      (fun fields => Yaml.write (.object fields)) = some "a: |+\n  x\n\n" := by
    obtain rfl := Except.ok.inj hb
    decide +kernel
  have hread : Records.read .json memo.write = .ok ⟨.single, [memo]⟩ := by
    unfold Records.read Records.readJson
    rw [Json.read?_write (by simp [memo, Json.Members.keys, Json.maxDepth])]
    rfl
  have hmaps : ∃ fields, (engine.resolve "Memo" (.ofJson memo) {}).1 = .ok fields ∧
      Yaml.write (.object fields) = "a: |+\n  x\n\n" := by
    cases h : (engine.resolve "Memo" (.ofJson memo) {}).1 with
    | ok fields =>
      rw [h] at hyaml
      exact ⟨fields, rfl, Option.some.inj hyaml⟩
    | error error =>
      rw [h] at hyaml
      exact absurd hyaml (by simp [Except.toOption])
  obtain ⟨fields, hfields, hwritten⟩ := hmaps
  obtain ⟨maps, document, hpairs, hdocument, hdone, hshown⟩ :=
    ((map_all_or_nothing loads_memo hb rfl).2.1 plan memo.write _ hplan rfl hread).2
      (List.forall_mem_singleton.2 ⟨fields, hfields⟩)
  obtain ⟨found, hfound, rfl⟩ : ∃ found, (engine.resolve "Memo" (.ofJson memo) {}).1 = .ok found ∧
      maps = [found] := by
    cases hpairs with
    | cons hfound hrest =>
      cases hrest
      exact ⟨_, hfound, rfl⟩
  obtain rfl := Except.ok.inj (hfound.symm.trans hfields)
  cases hdocument with
  | single =>
    have hcut : Output.trimmedLine "a: |+\n  x\n\n" = "a: |+\n  x\n" := by decide
    exact ⟨engine, found, hb, hfields, hdone, hwritten,
      (hshown rfl (by decide)).trans ((congrArg Output.trimmedLine hwritten).trans hcut)⟩

end Reshape.Command
