import Reshape.Proofs.Engine.Answers
import Reshape.Proofs.Filter.Integer
import Reshape.Proofs.Plan.Appended

namespace Reshape.Engine

open Reshape.Filter (Reference)
open Plan (appending)

variable {parts : Parts} {engine : Engine} {references : List Reference}

theorem freshPlan_appending {more : List Filter.Bound}
    (h : engine.registry.bindAll references = .ok more) (id : String) (o : Overrides) :
    engine.freshPlan id (appending o references) =
      (engine.freshPlan id o).map (·.withMore (appending o references).fingerprint more) := by
  unfold freshPlan
  cases engine.descriptor? id with
  | none => rfl
  | some d =>
    simp only [Plan.build_appending h]
    cases Plan.build engine.registry d o <;> rfl

theorem extends_fresh (hthere : ∀ r ∈ references, engine.registry.contains r.name = true)
    (id : String) (o : Overrides) (c : Container) :
    Pipeline.Extends engine.registry references
      ((engine.freshPlan id o).bind fun plan => engine.run plan c)
      ((engine.freshPlan id (appending o references)).bind fun plan => engine.run plan c) := by
  obtain ⟨more, hmore⟩ := Plan.exists_bindAll hthere
  rw [freshPlan_appending hmore]
  cases engine.freshPlan id o with
  | error error =>
    -- a plan that cannot be built cannot be built with more filters either
    exact Pipeline.extends_of_throughAll hthere (fun _ h => absurd h (by simp [Except.bind]))
      fun _ _ => ⟨error, rfl⟩
  | ok plan => exact Plan.extends_run hthere hmore plan _ engine.switches c

/-- An engine maps a record under overrides with more filters in their pipeline to what these make
of its map under the overrides alone. What was asked of the engine before either look-up makes no
difference, if digests tell its overrides apart. -/
theorem resolve_appending (hb : build parts = .ok engine)
    (hthere : ∀ r ∈ references, parts.registry.contains r.name = true) (id : String)
    (c : Container) (o : Overrides) :
    Pipeline.Extends parts.registry references (engine.resolve id c o).1
        (engine.resolve id c (appending o references)).1 ∧
      ∀ calls others : List Call,
        ToldApart engine (o :: appending o references :: overridesOf (calls ++ others)) →
        Pipeline.Extends parts.registry references ((engine.after calls).resolve id c o).1
          ((engine.after others).resolve id c (appending o references)).1 := by
  have hnow : Pipeline.Extends parts.registry references (engine.resolve id c o).1
      (engine.resolve id c (appending o references)).1 := by
    rw [fst_resolve_eq_fresh hb, fst_resolve_eq_fresh hb]
    rw [← registry_of_build hb] at hthere ⊢
    exact extends_fresh hthere id o c
  refine ⟨hnow, fun calls others hd => ?_⟩
  obtain ⟨hplain, happended⟩ := fst_resolve_after_both hb hd id c
  rw [hplain, happended]
  exact hnow

/-- A filter that every text passes, and one that refuses what it leaves of a title. -/
def counted : List Reference := [⟨"prefix", [.string "#"]⟩, ⟨"int", []⟩]

def sevenVotes : Container :=
  .ofMembers [("meta", .object [("title", .string " 7 ")]), ("votes", .string "3")]

theorem resolve_appending_ticket : ∃ engine, build ticketParts = .ok engine ∧
    (∀ r ∈ counted, ticketParts.registry.contains r.name = true) ∧
    ToldApart engine ({} :: appending {} counted ::
      overridesOf ([] ++ [.resolve "Ticket" sevenVotes {}])) ∧
    (engine.resolve "Ticket" sevenVotes {}).1 =
      .ok [("title", .string "7"), ("votes", .ofInt 3)] ∧
    ((engine.after [.resolve "Ticket" sevenVotes {}]).resolve "Ticket" sevenVotes
      (appending {} counted)).1 =
        .error (.filterFailed "title" "int" (.notConvertible (.string "#7") .integer)) := by
  obtain ⟨engine, hb⟩ : ∃ engine, build ticketParts = .ok engine := ⟨_, rfl⟩
  have hthere : ∀ r ∈ counted, ticketParts.registry.contains r.name = true := by decide
  have hprints : Overrides.fingerprint {} ≠ (appending {} counted).fingerprint := by
    decide +kernel
  have hd : ToldApart engine ({} :: appending {} counted ::
      overridesOf ([] ++ [.resolve "Ticket" sevenVotes {}])) :=
    toldApart_pair hprints (by simp [overridesOf, Call.overrides])
  have hplain : (engine.resolve "Ticket" sevenVotes {}).1 =
      .ok [("title", .string "7"), ("votes", .ofInt 3)] := by
    obtain rfl := Except.ok.inj hb
    rfl
  obtain ⟨-, hlater⟩ := resolve_appending hb hthere "Ticket" sevenVotes {}
  have hextends := hlater [] [.resolve "Ticket" sevenVotes {}] hd
  refine ⟨engine, hb, hthere, hd, hplain, (hextends.refuses _ _ hplain).2 ?_⟩
  exact ⟨[], "title", .string "7", _, rfl, by simp, [⟨"prefix", [.string "#"]⟩], ⟨"int", []⟩, [],
    .string "#7", Filter.toInteger, _, rfl, rfl, Filter.get_int, rfl, rfl⟩

end Reshape.Engine
