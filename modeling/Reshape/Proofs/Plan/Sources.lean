import Reshape.Plan.Build
import Reshape.Proofs.Outcome

namespace Reshape.Plan

def tree (registry : Filter.Registry) : Json → Except BuildError Template.Expr
  | .string text => Template.readWith registry text
  | value => .ok (.literal value)

/-- Every remembered tree is that of its text. -/
def Memo.Sound (registry : Filter.Registry) (memo : Memo) : Prop :=
  ∀ entry ∈ memo, Template.readWith registry entry.1 = .ok entry.2

theorem Memo.sound_nil (registry : Filter.Registry) : Sound registry [] := by
  simp [Sound]

theorem compile_eq {registry : Filter.Registry} {memo : Memo} (hm : memo.Sound registry)
    (field : String) (value : Json) : ∃ memo', Memo.Sound registry memo' ∧
      compile registry field memo value =
        ((tree registry value).mapError (BuildError.forField field)).map (·, memo') := by
  cases value with
  | string text =>
    simp only [compile, tree]
    cases hl : memo.lookup text with
    | some e =>
      -- what is remembered is what reading the text again would give
      obtain ⟨before, behind, rfl, -⟩ := List.lookup_eq_some_iff.1 hl
      have hr : Template.readWith registry text = .ok e := hm (text, e) (by simp)
      exact ⟨_, hm, by rw [hr]; rfl⟩
    | none =>
      cases hr : Template.readWith registry text with
      | error error => exact ⟨memo, hm, rfl⟩
      | ok e =>
        refine ⟨(text, e) :: memo, ?_, rfl⟩
        intro entry he
        rcases List.mem_cons.1 he with rfl | he
        · exact hr
        · exact hm entry he
  | null => exact ⟨memo, hm, rfl⟩
  | bool b => exact ⟨memo, hm, rfl⟩
  | number n => exact ⟨memo, hm, rfl⟩
  | array items => exact ⟨memo, hm, rfl⟩
  | object members => exact ⟨memo, hm, rfl⟩

def settleAlone (registry : Filter.Registry) :
    String × Origin → Except BuildError (String × Source)
  | (name, .settled source) => .ok (name, source)
  | (name, .template value) =>
    ((tree registry value).mapError (BuildError.forField name)).map fun e => (name, .template e)

theorem settle_eq_mapM {registry : Filter.Registry} {memo : Memo} (hm : memo.Sound registry)
    (all : List (String × Origin)) :
    settle registry memo all = all.mapM (settleAlone registry) := by
  induction all generalizing memo with
  | nil => rfl
  | cons entry rest ih =>
    obtain ⟨name, origin⟩ := entry
    rw [Outcome.mapM_cons_eq]
    cases origin with
    | settled source =>
      simp only [settle, settleAlone]
      rw [ih hm]
    | template value =>
      obtain ⟨memo', hm', hc⟩ := compile_eq hm name value
      simp only [settle, settleAlone, hc]
      cases tree registry value with
      | error error => rfl
      | ok e =>
        simp only [Except.mapError, Except.map]
        rw [ih hm']

theorem sources_of_eq_nil {registry : Filter.Registry} {d : Descriptor} {template : Json.Members}
    (h : template = []) : sources registry d template = d.fields.mapM (declaredSource d) := by
  subst h
  rfl

theorem sources_of_ne_nil {registry : Filter.Registry} {d : Descriptor} {template : Json.Members}
    (h : template ≠ []) :
    sources registry d template = (origins d template).mapM (settleAlone registry) := by
  unfold sources
  rw [if_neg (by simpa using h), settle_eq_mapM (Memo.sound_nil registry)]

end Reshape.Plan
