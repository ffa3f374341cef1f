import Reshape.Proofs.Template.Marks
import Reshape.Proofs.Template.Reread

namespace Reshape.Template.Grammar

def QuoteAhead (s : List Char) : Prop :=
  ∃ quote behind, skipBlanks s = quote :: behind ∧ isQuote quote = true

/-- The text opens a block on a quoted string. -/
def OpensQuote (run : List Char) : Prop :=
  ∃ front inside, run = front ++ '{' :: '{' :: inside ∧ QuoteAhead inside

theorem not_opensQuote_of_free {run : List Char} (h : Free run) : ¬OpensQuote run := by
  rintro ⟨front, inside, rfl, -⟩
  exact h ⟨front, inside, by simp⟩

variable {known : String → Bool} {s : List Char} {e : Expr}

theorem Filtered.head_path (h : Filtered known false s e)
    (hq : ∀ c tail, s = c :: tail → isQuote c = false) :
    ∃ w p rest, e.heads = .path p :: rest ∧ Path.Spells w p := by
  induction h with
  | primary h =>
    cases h with
    | quoted hquote _ => exact absurd hquote (by simp [hq _ _ rfl])
    | literal hf _ _ => exact absurd hf (by simp)
    | path _ _ hp => exact ⟨_, _, [], rfl, hp⟩
  | filter _ _ _ _ _ _ _ ih => exact ih fun c tail hs => hq c _ (by rw [hs]; rfl)
  | fallback _ _ _ _ ih =>
    obtain ⟨w, p, rest, hheads, hp⟩ := ih fun c tail hs => hq c _ (by rw [hs]; rfl)
    exact ⟨w, p, _, by rw [Expr.heads, hheads]; rfl, hp⟩

theorem Chain.head_path (h : Chain known false s e)
    (hq : ∀ c tail, s = c :: tail → isQuote c = false) :
    ∃ w p rest, e.heads = .path p :: rest ∧ Path.Spells w p := by
  cases h with
  | last h => exact h.head_path hq
  | fallback h _ _ _ =>
    obtain ⟨w, p, rest, hheads, hp⟩ := h.head_path fun c tail hs => hq c _ (by rw [hs]; rfl)
    exact ⟨w, p, _, by rw [Expr.heads, hheads]; rfl, hp⟩

theorem Block.head_path (h : Block known s e) (rest : List Char)
    (hq : ¬QuoteAhead (s ++ rest)) :
    ∃ w p others, e.heads = .path p :: others ∧ Path.Spells w p := by
  obtain @⟨b, s, b', e, hb, hchain, -⟩ := h
  have hskip : skipBlanks (b ++ (s ++ (b' ++ ['}', '}'])) ++ rest) =
      s ++ (b' ++ ['}', '}'] ++ rest) := by
    rw [List.append_assoc, skipBlanks_append hb, List.append_assoc]
    exact (hchain.starts.append _).skipBlanks
  refine hchain.head_path fun c tail hs => Bool.eq_false_iff.2 fun hquote => hq ?_
  exact ⟨c, tail ++ (b' ++ ['}', '}'] ++ rest), by rw [hskip, hs]; rfl, hquote⟩

/-- On a container in which the head of the new block leads to a text, that text stands where the
brace was. -/
theorem rendering_of_opening {front inside : List Char} {found : List Expr}
    (hfree : Free (front ++ ['{'])) (hq : ¬QuoteAhead inside)
    (hread : parts anyName (front ++ '{' :: '{' :: inside) = .ok found) :
    ∃ c behind, Expr.rendering id c found = front ++ 'X' :: behind := by
  rw [parts, freeText_append hfree] at hread
  split at hread
  · next hopen =>
    obtain ⟨rfl, htail⟩ := List.cons.inj hopen
    obtain ⟨rfl, rfl⟩ := List.cons.inj htail
    split at hread
    · exact absurd hread (by simp)
    · next e rest hbody =>
      obtain ⟨others, -, rfl⟩ := Outcome.map_eq_ok.1 hread
      obtain ⟨used, rfl, hblock⟩ := blockBody_sound hbody
      obtain ⟨w, p, heads, hheads, hp⟩ := hblock.head_path rest hq
      -- the head leads to a text, and nothing else is there to be found
      let c := Container.ofJson (Path.only (.string "X") p.segments)
      have hfound : e.valueWith id c = some (.string "X") := by
        rw [Expr.valueWith_id, hheads, List.findSome?_cons, Expr.found, hp.resolve_only]
      refine ⟨c, Expr.rendering id c others, ?_⟩
      rw [Expr.rendering_textPart, Expr.rendering_cons, hfound]
      rfl
  · next hn => exact absurd rfl (hn _ _ _)

theorem exists_opening {run : List Char} (h : ¬Free run) :
    ∃ front inside, run = front ++ '{' :: '{' :: inside ∧ Free (front ++ ['{']) := by
  obtain ⟨hsplit, ⟨hnil, hfree⟩ | ⟨inside, hinside, hfree⟩⟩ := freeText_sound run
  · rw [hnil, List.append_nil] at hsplit
    exact absurd (hsplit ▸ hfree) h
  · exact ⟨_, inside, hinside ▸ hsplit, hfree⟩

/-- A text keeps the first brace of an opening whose second one stands behind it at the latest. -/
theorem ne_of_opening {before tail front inside : List Char}
    (h : before ++ tail = front ++ '{' :: '{' :: inside) (htail : tail.length ≤ 1)
    (rest behind : List Char) : front ++ 'X' :: behind ≠ before ++ rest := by
  intro he
  have hlength := congrArg List.length h
  simp only [List.length_append, List.length_cons] at hlength
  have hlt : front.length < before.length := by omega
  -- behind the same text in front there is a brace in one and a letter in the other
  have hbrace : (before ++ tail)[front.length]? = some '{' := by
    rw [h]
    simp
  have hother : (before ++ rest)[front.length]? = some 'X' := by
    rw [← he]
    simp
  rw [List.getElem?_append_left hlt] at hbrace hother
  exact absurd (hbrace.symm.trans hother) (by decide)

theorem QuoteAhead.of_append {s rest : List Char} (hrest : ¬QuoteAhead rest)
    (h : QuoteAhead (s ++ rest)) : QuoteAhead s := by
  obtain ⟨quote, behind, hskip, hquote⟩ := h
  unfold skipBlanks at hskip
  rw [List.dropWhile_append] at hskip
  cases hs : s.dropWhile Text.isBlank with
  | nil =>
    rw [hs] at hskip
    exact absurd ⟨quote, behind, hskip, hquote⟩ hrest
  | cons c tail =>
    rw [hs] at hskip
    exact ⟨quote, tail, by rw [skipBlanks, hs, (List.cons.inj hskip).1], hquote⟩

theorem not_quoteAhead_brace (rest : List Char) : ¬QuoteAhead ('{' :: rest) := by
  rintro ⟨quote, behind, hskip, hquote⟩
  rw [skipBlanks_cons (by decide)] at hskip
  rw [← (List.cons.inj hskip).1] at hquote
  exact absurd hquote (by decide)

/-- What is read of a text that opens a block has no text of the braces that opened it. -/
theorem rendering_ne_of_opening {before tail rest : List Char} {found : List Expr}
    (hopen : ¬Free (before ++ tail)) (hq : ¬OpensQuote (before ++ tail))
    (htail : tail.length ≤ 1) (hrest : ¬QuoteAhead rest)
    (hread : parts anyName (before ++ tail ++ rest) = .ok found) :
    ∃ c, ∀ more, Expr.rendering id c found ≠ before ++ more := by
  obtain ⟨front, inside, hrun, hfront⟩ := exists_opening hopen
  have hquote : ¬QuoteAhead (inside ++ rest) := fun h =>
    hq ⟨front, inside, hrun, h.of_append hrest⟩
  rw [hrun, List.append_assoc, List.cons_append, List.cons_append] at hread
  obtain ⟨c, behind, hc⟩ := rendering_of_opening hfront hquote hread
  exact ⟨c, fun more => hc ▸ ne_of_opening hrun htail more behind⟩

/-- Printed parts that are read have no text that opens a block, or mean something else. -/
theorem free_or_rendering_ne {before : List Char} {parts found : List Expr}
    (h : ∀ part ∈ parts, Readable false part)
    (hq : ∀ run ∈ Expr.runs before parts, ¬OpensQuote run)
    (hread : Template.parts anyName (before ++ Expr.partChars parts) = .ok found) :
    (∀ run ∈ Expr.runs before parts, Free run) ∨
      ∃ c, Expr.rendering id c found ≠ before ++ Expr.rendering id c parts := by
  -- along the parts, with any text in front that is not closed by a block yet
  induction parts generalizing before found with
  | nil =>
    rw [Expr.partChars, ← List.append_nil before] at hread
    have hrun : Expr.runs before [] = [before ++ []] := by rw [List.append_nil, Expr.runs]
    rw [hrun, List.forall_mem_singleton] at hq ⊢
    by_cases hfree : Free (before ++ [])
    · exact .inl hfree
    · have hend : ¬QuoteAhead [] := by simp [QuoteAhead, skipBlanks]
      obtain ⟨c, hc⟩ := rendering_ne_of_opening hfree hq (by simp) hend hread
      exact .inr ⟨c, hc _⟩
  | cons part parts ih =>
    have hpart := h part List.mem_cons_self
    have hrest := fun p hp => h p (List.mem_cons_of_mem part hp)
    cases ht : part.text? with
    | some text =>
      -- the text runs on into what follows it
      rw [Expr.runs_of_text ht] at hq ⊢
      rw [partChars_of_text ht, ← List.append_assoc] at hread
      refine (ih hrest hq hread).imp_right ?_
      rintro ⟨c, hc⟩
      refine ⟨c, ?_⟩
      rw [Expr.eq_of_text? ht, Expr.rendering_cons]
      simpa [Expr.valueWith, Expr.shown, Filter.rendered] using hc
    | none =>
      rw [Expr.runs_of_block ht, List.forall_mem_cons] at hq ⊢
      rw [partChars_of_block hpart ht] at hread
      by_cases hfree : Free (before ++ ['{'])
      · -- the block is read as it was printed, so what follows it decides
        rw [parts_of_block hfree hpart.block] at hread
        obtain ⟨others, hothers, rfl⟩ := Outcome.map_eq_ok.1 hread
        rcases @ih [] others hrest hq.2 hothers with hall | ⟨c, hc⟩
        · exact .inl ⟨hfree, hall⟩
        · right
          refine ⟨c, ?_⟩
          rw [Expr.rendering_textPart, Expr.rendering_cons, Expr.rendering_cons,
            Expr.valueWith_id_regrouped]
          simpa using hc
      · rw [← List.singleton_append, ← List.append_assoc] at hread
        obtain ⟨c, hc⟩ := rendering_ne_of_opening hfree hq.1 (by simp) (not_quoteAhead_brace _)
          hread
        exact .inr ⟨c, hc _⟩

end Reshape.Template.Grammar
