import Reshape.Proofs.Template.Opening

namespace Reshape.Template

namespace Expr

def opensWithText : Expr → Bool
  | .fallback inner _ => opensWithText inner
  | .literal (.string _) => true
  | _ => false

/-- What is printed is read, and has the same value in every context and on every container. -/
def ReadsBack (e : Expr) : Prop :=
  ∃ e', read (String.ofList e.templateChars) = .ok e' ∧
    ∀ ctx c, e'.evaluate ctx c = e.evaluate ctx c

/-- Nothing is lost in print. -/
structure Reprintable (e : Expr) : Prop where
  /-- No text opens a block, also not with the brace of the block behind it. -/
  free : ∀ run ∈ runs [] e.parts, Grammar.Free run
  /-- No filter stands on what has a fall-back. -/
  direct : ∀ part ∈ e.parts, part.isDirect = true
  /-- What is several parts and is printed as one block is a text either way. -/
  lone : ∀ parts part, e = .concat parts → rereadParts [] parts = [part] →
    part.opensWithText = true

/-- An alternative that is stripped of a filter is the first with a value on some container. -/
def Live (e : Expr) : Prop :=
  ∃ before head c, Stripped e before head ∧ Comes c before head

/-- Templates in which what is lost in print shows: no text opens a block on a quoted string, and
filters are not only lost on alternatives that never come first. There are templates with either
that mean the same after print. -/
structure Plain (e : Expr) : Prop where
  unquoted : ∀ run ∈ runs [] e.parts, ¬Grammar.OpensQuote run
  live : ∀ part ∈ e.parts, part.isDirect = false → part.Live

variable (ctx : Context) (c : Container)

theorem evaluate_of_opensWithText {e : Expr} (h : e.opensWithText = true) :
    ∃ s, e.evaluate ctx c = .ok (some (.string s)) := by
  fun_induction opensWithText e with
  | case1 inner other ih =>
    obtain ⟨s, hs⟩ := ih h
    refine ⟨s, ?_⟩
    rw [evaluate, hs]
    rfl
  | case2 s => exact ⟨s, rfl⟩
  | case3 e => exact absurd h (by simp)

theorem renderParts_textPart (text : List Char) (parts : List Expr) :
    renderParts ctx c (textPart text ++ parts) =
      (renderParts ctx c parts).map (text ++ ·) := by
  unfold textPart
  split
  · next h =>
    rw [List.isEmpty_iff.1 h, List.nil_append]
    cases renderParts ctx c parts with
    | error error => rfl
    | ok cs => rfl
  · rw [List.singleton_append, renderParts, evaluate]
    simp [Filter.rendered]

theorem renderParts_rereadParts {parts : List Expr}
    (h : ∀ part ∈ parts, part.isDirect = true) (before : List Char) :
    renderParts ctx c (rereadParts before parts) =
      (renderParts ctx c parts).map (before ++ ·) := by
  -- `before` is the text that the printed parts so far end in
  induction parts generalizing before with
  | nil =>
    rw [rereadParts, ← List.append_nil (textPart before)]
    exact renderParts_textPart ctx c before []
  | cons part parts ih =>
    have hrest := ih fun p hp => h p (List.mem_cons_of_mem part hp)
    cases ht : part.text? with
    | some text =>
      rw [rereadParts_of_text ht, hrest, eq_of_text? ht, renderParts, evaluate]
      cases renderParts ctx c parts with
      | error error => rfl
      | ok cs => simp [Except.map, Filter.rendered]
    | none =>
      rw [rereadParts_of_block ht, renderParts_textPart, renderParts, renderParts, hrest,
        evaluate_regrouped ctx c (h part List.mem_cons_self)]
      cases part.evaluate ctx c with
      | error error => rfl
      | ok value =>
        cases renderParts ctx c parts with
        | error error => rfl
        | ok cs => rfl

/-- Parts mean their texts put together, as long as a part that stands alone means its text. -/
theorem evaluate_ofParts_of_lone {parts : List Expr}
    (h : ∀ part, parts = [part] → part.opensWithText = true) :
    (ofParts parts).evaluate ctx c =
      (renderParts ctx c parts).map fun cs => some (.string (String.ofList cs)) := by
  match parts with
  | [] => rfl
  | [part] =>
    obtain ⟨s, hs⟩ := evaluate_of_opensWithText ctx c (h part rfl)
    rw [ofParts, hs, renderParts, hs]
    simp [renderParts, Except.map, Filter.rendered]
  | first :: second :: others => rfl

theorem ofParts_textPart (text : List Char) :
    ofParts (textPart text) = .literal (.string (String.ofList text)) := by
  unfold textPart
  split
  · next h => rw [List.isEmpty_iff.1 h]; rfl
  · rfl

theorem evaluate_reread {e : Expr} (h : e.Reprintable) :
    (ofParts (rereadParts [] e.parts)).evaluate ctx c = e.evaluate ctx c := by
  by_cases hconcat : ∃ parts, e = .concat parts
  · obtain ⟨parts, rfl⟩ := hconcat
    have hreread : renderParts ctx c (rereadParts [] parts) =
        (renderParts ctx c parts).map ([] ++ ·) := renderParts_rereadParts ctx c h.direct []
    show (ofParts (rereadParts [] parts)).evaluate ctx c = (Expr.concat parts).evaluate ctx c
    rw [evaluate_ofParts_of_lone ctx c fun part hpart => h.lone parts part rfl hpart, hreread,
      evaluate]
    cases renderParts ctx c parts with
    | error error => rfl
    | ok cs => rfl
  · have hparts : e.parts = [e] := by
      cases e with
      | concat parts => exact absurd ⟨parts, rfl⟩ hconcat
      | _ => rfl
    have hdirect : e.isDirect = true := h.direct e (by simp [hparts])
    rw [hparts]
    cases ht : e.text? with
    | some text =>
      rw [rereadParts_of_text ht, rereadParts, List.nil_append, ofParts_textPart, eq_of_text? ht]
    | none =>
      rw [rereadParts_of_block ht]
      exact evaluate_regrouped ctx c hdirect

/-- What is printed where no text opens a block, and what it reads as. -/
theorem read_templateChars {e : Expr} (h : ∀ part ∈ e.parts, Grammar.Readable false part)
    (hfree : ∀ run ∈ runs [] e.parts, Grammar.Free run) :
    read (String.ofList e.templateChars) = .ok (ofParts (rereadParts [] e.parts)) := by
  rw [templateChars_eq]
  exact (Grammar.parts_reread h hfree).read

theorem readsBack_of_reprintable {e : Expr}
    (h : ∀ part ∈ e.parts, Grammar.Readable false part) (he : e.Reprintable) : e.ReadsBack :=
  ⟨_, read_templateChars h he.free, fun ctx c => evaluate_reread ctx c he⟩

theorem rendering_rereadParts (f : Json → Json) (before : List Char) (parts : List Expr) :
    rendering f c (rereadParts before parts) =
      before ++ rendering f c (parts.map regrouped) := by
  induction parts generalizing before with
  | nil =>
    rw [rereadParts, ← List.append_nil (textPart before)]
    exact rendering_textPart f c before []
  | cons part parts ih =>
    cases ht : part.text? with
    | some text =>
      rw [rereadParts_of_text ht, ih, List.map_cons, rendering_cons, eq_of_text? ht]
      simp [regrouped, valueWith, shown, Filter.rendered]
    | none =>
      rw [rereadParts_of_block ht, rendering_textPart, rendering_cons, ih, List.map_cons,
        rendering_cons, List.nil_append]

theorem length_rendering (parts : List Expr) :
    (rendering mark c parts).length = (parts.map fun part => (worth c part).getD 0).sum := by
  induction parts with
  | nil => rfl
  | cons part parts ih =>
    rw [rendering_cons, List.length_append, ih, List.map_cons, List.sum_cons, worth, shown]
    cases part.valueWith mark c with
    | none => rfl
    | some value => rfl

/-- All parts are direct, or some container shows that a mark is lost. -/
theorem direct_or_rendering_ne {parts : List Expr}
    (h : ∀ part ∈ parts, part.isDirect = false → part.Live) :
    (∀ part ∈ parts, part.isDirect = true) ∨
      ∃ c, rendering mark c (rereadParts [] parts) ≠ rendering mark c parts := by
  by_cases hdirect : ∀ part ∈ parts, part.isDirect = true
  · exact .inl hdirect
  · right
    obtain ⟨part, hpart, hno⟩ : ∃ part ∈ parts, part.isDirect = false := by
      simpa using hdirect
    obtain ⟨before, head, c, hstripped, hc⟩ := h part hpart hno
    obtain ⟨m, n, hm, hn, hlt⟩ := hstripped.loses hc
    refine ⟨c, fun he => ?_⟩
    have hlength := congrArg List.length he
    rw [rendering_rereadParts, List.nil_append, length_rendering, length_rendering,
      List.map_map] at hlength
    refine absurd hlength (Nat.ne_of_lt ?_)
    refine List.sum_lt_sum _ _ (fun p _ => (worth_regrouped c p).getD) ⟨part, hpart, ?_⟩
    rw [Function.comp_apply, hm, hn]
    exact hlt

theorem exists_valueWith_of_opensWithText {e : Expr} (h : e.opensWithText = true)
    (f : Json → Json) : ∃ value, e.valueWith f c = some value := by
  fun_induction opensWithText e with
  | case1 inner other ih =>
    obtain ⟨value, hvalue⟩ := ih h
    exact ⟨value, by rw [valueWith, hvalue]; rfl⟩
  | case2 s => exact ⟨_, rfl⟩
  | case3 e => exact absurd h (by simp)

/-- A block that does not open with text can be null where filters turn everything into null. -/
theorem exists_null {inFallback : Bool} {e : Expr} (h : Grammar.Readable inFallback e)
    (hf : inFallback = false) (ho : e.opensWithText = false) :
    ∃ c, e.valueWith (fun _ => .null) c = some .null := by
  induction h with
  | string => exact absurd ho (by simp [opensWithText])
  | keyword => exact absurd hf (by simp)
  | @path inFallback p _ _ hp =>
    exact ⟨_, hp.resolve_only .null⟩
  | @filter inFallback e name values _ _ _ _ ih =>
    by_cases hinner : e.opensWithText = true
    · obtain ⟨value, hvalue⟩ :=
        exists_valueWith_of_opensWithText (Container.ofJson .null) hinner fun _ => .null
      exact ⟨_, by rw [valueWith, hvalue]; rfl⟩
    · obtain ⟨c, hc⟩ := ih hf (Bool.eq_false_iff.2 hinner)
      exact ⟨c, by rw [valueWith, hc]; rfl⟩
  | fallback _ _ ih _ =>
    obtain ⟨c, hc⟩ := ih hf ho
    exact ⟨c, by rw [valueWith, hc]; rfl⟩

/-- A block that means the same as parts put together opens with text. -/
theorem opensWithText_of_same {part : Expr} {parts : List Expr}
    (h : Grammar.Readable false part)
    (hsame : ∀ ctx c, part.evaluate ctx c = (Expr.concat parts).evaluate ctx c) :
    part.opensWithText = true := by
  by_contra hno
  -- where filters make everything null, parts put together are still a text
  obtain ⟨c, hc⟩ := exists_null h rfl (Bool.eq_false_iff.2 hno)
  have hnames : ∀ name ∈ part.filterNames, name ∈ part.filterNames := fun _ hname => hname
  have hnull := evaluate_uniform h (fun _ => .null) c hnames
  rw [hsame, hc, evaluate] at hnull
  obtain ⟨cs, -, htext⟩ := Outcome.map_eq_ok.1 hnull
  exact absurd htext (by simp)

theorem reprintable_of_readsBack {e : Expr}
    (h : ∀ part ∈ e.parts, Grammar.Readable false part) (he : ofParts e.parts = e)
    (hplain : e.Plain) (hback : e.ReadsBack) : e.Reprintable := by
  obtain ⟨e', hread, hsame⟩ := hback
  have hderives := Grammar.readKnown_eq_ok.1 hread
  rw [String.toList_ofList, templateChars_eq] at hderives
  cases hderives with
  | @parts found hparts =>
    have hfound := hparts.readable
    -- what means the same in every context has the same text under every single filter
    have hrendering : ∀ f c, rendering f c found = rendering f c e.parts := by
      intro f c
      refine rendering_eq f c h hfound fun ctx => ?_
      rw [he]
      exact hsame ctx c
    -- with a filter that does nothing it shows where a text opens a block
    have hfree : ∀ run ∈ runs [] e.parts, Grammar.Free run := by
      rcases Grammar.free_or_rendering_ne h hplain.unquoted
        (Grammar.parts_append hparts) with hfree | ⟨c, hc⟩
      · exact hfree
      · exact absurd (hrendering id c) hc
    have hreread : found = rereadParts [] e.parts :=
      Except.ok.inj ((Grammar.parts_append hparts).symm.trans
        (Grammar.parts_append (Grammar.parts_reread h hfree)))
    refine ⟨hfree, ?_, ?_⟩
    · -- with one that leaves marks it shows where a filter is lost
      rcases direct_or_rendering_ne hplain.live with hdirect | ⟨c, hc⟩
      · exact hdirect
      · exact absurd (hreread ▸ hrendering mark c) hc
    · rintro parts part rfl hpart
      rw [hreread.trans hpart] at hsame hfound
      exact opensWithText_of_same (hfound part List.mem_cons_self) hsame

theorem free_of_block {part : Expr} (ht : part.text? = none) :
    ∀ run ∈ runs [] [part], Grammar.Free run := by
  rw [runs_of_block ht]
  exact List.forall_mem_cons.2 ⟨Grammar.free_brace, List.forall_mem_singleton.2 Grammar.free_nil⟩

/-- A path in front of other alternatives comes first on the container of that path. -/
theorem live_of_path {p : Path} {w : List Char} (hp : Path.Spells w p) (other : Expr)
    (name : String) (values : List Json) :
    (Expr.filter (.fallback (.path p) other) name values).Live := by
  have hcomes : Comes (Container.ofJson (Path.only .null p.segments)) [] (.path p) := by
    refine ⟨by simp, ?_⟩
    rw [found, hp.resolve_only]
    simp
  exact ⟨[], .path p, _, .filter rfl other.heads_ne_nil name values, hcomes⟩

/-- A template that was read means the same after print if it is reprintable, and if it is plain
then only if it is. -/
theorem readsBack_iff_reprintable {text : String} {e : Expr} (h : read text = .ok e) :
    (e.Reprintable → e.ReadsBack) ∧ (e.Plain → (e.ReadsBack ↔ e.Reprintable)) := by
  obtain ⟨hreadable, hparts⟩ := (Grammar.readKnown_eq_ok.1 h).parts_readable
  have hback := readsBack_of_reprintable hreadable
  exact ⟨hback, fun hplain => ⟨reprintable_of_readsBack hreadable hparts hplain, hback⟩⟩

/-- A default that a further filter stands on. -/
def defaulted : Expr :=
  .filter (.fallback (.path ⟨[.key "a"]⟩) (.literal (.string "x"))) "upper" []

theorem spells_a : Path.Spells ['a'] ⟨[.key "a"]⟩ := .single (by decide) (by decide)

theorem filtered_defaulted (inFallback : Bool) :
    Grammar.Filtered anyName inFallback "a | default:x | upper".toList defaulted := by
  have hhead : Grammar.Filtered anyName inFallback ['a'] (.path ⟨[.key "a"]⟩) :=
    .primary (.path (fun _ => rfl) (.of_all rfl rfl) spells_a)
  have hword : Grammar.Word ['x'] := .of_all rfl rfl
  have hx : Grammar.Arguments [':', 'x'] [.string "x"] :=
    .cons (s := ['x']) Grammar.blank_nil Grammar.blank_nil (.word hword rfl) .nil
  have hdefault := hhead.fallback Grammar.blank_space Grammar.blank_space hx
  have hname : Grammar.Name "upper".toList := .of_all rfl rfl
  exact hdefault.filter Grammar.blank_space Grammar.blank_space hname (by decide) rfl .nil

/-- A default that a further filter stands on comes back as a fall-back with the filter on the
other alternative. -/
theorem readsBack_iff_reprintable_default :
    read "{{ a | default:x | upper }}" = .ok defaulted ∧ defaulted.Plain ∧
      ¬defaulted.ReadsBack := by
  have hread : read "{{ a | default:x | upper }}" = .ok defaulted :=
    Grammar.readKnown_eq_ok.2 (Grammar.Chain.last (filtered_defaulted false)).block.derives
  have hplain : defaulted.Plain := by
    refine ⟨?_, ?_⟩
    · intro run hrun
      exact Grammar.not_opensQuote_of_free (free_of_block rfl run hrun)
    · intro part hpart _
      obtain rfl : part = defaulted := List.mem_singleton.1 hpart
      exact live_of_path spells_a _ "upper" []
  refine ⟨hread, hplain, fun hback => ?_⟩
  have hreprintable := ((readsBack_iff_reprintable hread).2 hplain).1 hback
  exact absurd (hreprintable.direct defaulted (by simp [defaulted, Expr.parts])) (by decide)

/-- A filter is lost on an alternative that is never reached, behind one that always has a value. -/
theorem exists_readsBack_of_unreached : ∃ text e, read text = .ok e ∧ e.ReadsBack ∧
    (∀ run ∈ runs [] e.parts, Grammar.Free run) ∧ ¬∀ part ∈ e.parts, part.isDirect = true := by
  let e : Expr :=
    .fallback (.path ⟨[.key "b"]⟩) (.fallback (.literal (.bool true)) defaulted)
  have hhead : Grammar.Filtered anyName false ['b'] (.path ⟨[.key "b"]⟩) :=
    .primary (.path (by decide) (.of_all rfl rfl) (.single (by decide) (by decide)))
  have hword : Grammar.Word "true".toList := .of_all rfl rfl
  have hvalue : Grammar.Filtered anyName true "true".toList (.literal (.bool true)) :=
    .primary (.literal rfl hword rfl)
  have hlast := hvalue.chain (.last (filtered_defaulted true))
  have hread : read "{{ b ?? true ?? a | default:x | upper }}" = .ok e :=
    Grammar.readKnown_eq_ok.2 (hhead.chain hlast).block.derives
  have hfree : ∀ run ∈ runs [] e.parts, Grammar.Free run := free_of_block rfl
  have hreadable := (Grammar.readKnown_eq_ok.1 hread).parts_readable.1
  refine ⟨_, e, hread, ⟨_, read_templateChars hreadable hfree, fun ctx c => rfl⟩, hfree, ?_⟩
  exact fun hdirect => absurd (hdirect e (by simp [e, Expr.parts])) (by decide)

/-- Text that opens a block on a quote, and in the quotes another one. -/
def openingText : List Char := ['{', '{', ' ', '\'', '{', '{', ' ']

/-- How a quoted text with a path to fall back on ends its block. -/
def closingText : List Char := [' ', '?', '?', ' ', 'y', ' ', '}', '}']

/-- A text that opens a block, and a quoted text that closes one: printed, the first block holds
what comes before the quotes of the second, and the text behind it what is in them. -/
def shifted : Expr :=
  .concat [.literal (.string (String.ofList (openingText ++ ['\\', '\'']))),
    .fallback (.literal (.string (String.ofList (closingText ++ '\'' :: closingText))))
      (.path ⟨[.key "y"]⟩)]

def shiftedBack : Expr :=
  .concat [.fallback (.literal (.string (String.ofList openingText))) (.path ⟨[.key "y"]⟩),
    .literal (.string (String.ofList ('\\' :: '\'' :: (closingText ++ '\'' :: closingText))))]

/-- A text opens a block, and what is read of it is the text. -/
theorem exists_readsBack_of_opensQuote : ∃ text e, read text = .ok e ∧ e.ReadsBack ∧
    (∀ part ∈ e.parts, part.isDirect = true) ∧ ¬∀ run ∈ runs [] e.parts, Grammar.Free run := by
  have hspells : Path.Spells ['y'] ⟨[.key "y"]⟩ := .single (by decide) (by decide)
  have hy : Grammar.Filtered anyName true ['y'] (.path ⟨[.key "y"]⟩) :=
    .primary (.path (fun _ => rfl) (.of_all rfl rfl) hspells)
  have hquoted := fun text =>
    (Grammar.Readable.string false (String.ofList text)).filtered rfl
  have hchain := fun text => (hquoted text).chain (.last hy)
  have hopen : Grammar.Free ([] ++ ['{']) := Grammar.free_brace
  have hread : read (String.ofList _) = .ok shifted :=
    (Grammar.Parts.block hopen (Grammar.Chain.last (hquoted (openingText ++ ['\\', '\'']))).block
      (.block hopen (hchain (closingText ++ '\'' :: closingText)).block
        (.text Grammar.free_nil))).read
  have hback : read (String.ofList shifted.templateChars) = .ok shiftedBack := by
    have hrest : Grammar.Free ('\\' :: '\'' :: (closingText ++ '\'' :: closingText)) := by
      unfold Grammar.Free
      decide
    exact (Grammar.Parts.block hopen (hchain openingText).block (.text hrest)).read
  have hruns : openingText ++ ['\\', '\'', '{'] ∈ runs [] shifted.parts := by
    have htext : (Expr.literal (.string (String.ofList (openingText ++ ['\\', '\''])))).text? =
        some (openingText ++ ['\\', '\'']) := congrArg some String.toList_ofList
    rw [shifted, parts, runs_of_text htext, runs_of_block rfl]
    exact List.mem_cons_self
  refine ⟨_, shifted, hread, ⟨shiftedBack, hback, ?_⟩, ?_, ?_⟩
  · intro ctx c
    simp [shifted, shiftedBack, evaluate, renderParts, Context.needsFallback, Filter.rendered,
      openingText, closingText, Except.map]
  · exact List.forall_mem_cons.2 ⟨rfl, List.forall_mem_singleton.2 rfl⟩
  · exact fun hfree => hfree _ hruns (by decide)

end Expr

end Reshape.Template
