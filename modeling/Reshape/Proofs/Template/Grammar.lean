import Reshape.Proofs.Path
import Reshape.Template.Reader

namespace Reshape.Template.Grammar

def Blank (s : List Char) : Prop := ∀ c ∈ s, Text.isBlank c = true

/-- What stands behind an opening quote, up to the same quote again, and the text it means. -/
inductive Quoted (quote : Char) : List Char → List Char → Prop where
  | close : Quoted quote [quote] []
  | escaped {s value : List Char} (c : Char) (h : Quoted quote s value) :
      Quoted quote ('\\' :: c :: s) (c :: value)
  | plain {c : Char} {s value : List Char} (hquote : c ≠ quote) (hslash : c ≠ '\\')
      (h : Quoted quote s value) : Quoted quote (c :: s) (c :: value)

/-- A run of characters that are neither blank nor structural, with no quote in front. -/
inductive Word : List Char → Prop where
  | run {c : Char} {s : List Char} (start : isQuote c = false)
      (all : ∀ x ∈ c :: s, isWordChar x = true) : Word (c :: s)

inductive Name : List Char → Prop where
  | run {c : Char} {s : List Char} (start : isNameStart c = true)
      (all : ∀ x ∈ s, isNameChar x = true) : Name (c :: s)

inductive Argument : List Char → Json → Prop where
  | quoted {quote : Char} {s value : List Char} (hq : isQuote quote = true)
      (h : Quoted quote s value) : Argument (quote :: s) (.string (String.ofList value))
  | literal {w : List Char} {value : Json} (hw : Word w) (hv : literal? w = some value) :
      Argument w value
  | word {w : List Char} (hw : Word w) (hv : literal? w = none) :
      Argument w (.string (String.ofList w))

/-- Arguments, each behind a colon. -/
inductive Arguments : List Char → List Json → Prop where
  | nil : Arguments [] []
  | cons {b b' s rest : List Char} {value : Json} {values : List Json} (hb : Blank b)
      (hb' : Blank b') (h : Argument s value) (hrest : Arguments rest values) :
      Arguments (b ++ ':' :: (b' ++ (s ++ rest))) (value :: values)

/-- The head of a chain. Only in a fall-back are keywords and numbers literals. -/
inductive Primary (inFallback : Bool) : List Char → Expr → Prop where
  | quoted {quote : Char} {s value : List Char} (hq : isQuote quote = true)
      (h : Quoted quote s value) :
      Primary inFallback (quote :: s) (.literal (.string (String.ofList value)))
  | literal {w : List Char} {value : Json} (hf : inFallback = true) (hw : Word w)
      (hv : literal? w = some value) : Primary inFallback w (.literal value)
  | path {w : List Char} {p : Path} (hf : inFallback = true → literal? w = none) (hw : Word w)
      (hp : Path.Spells w p) : Primary inFallback w (.path p)

/-- A head and the filters behind it, each of them around all before it. -/
inductive Filtered (known : String → Bool) (inFallback : Bool) : List Char → Expr → Prop where
  | primary {s : List Char} {e : Expr} (h : Primary inFallback s e) :
      Filtered known inFallback s e
  | filter {s b b' name args : List Char} {e : Expr} {values : List Json}
      (h : Filtered known inFallback s e) (hb : Blank b) (hb' : Blank b') (hname : Name name)
      (hdefault : String.ofList name ≠ "default") (hknown : known (String.ofList name) = true)
      (hargs : Arguments args values) :
      Filtered known inFallback (s ++ (b ++ '|' :: (b' ++ (name ++ args))))
        (.filter e (String.ofList name) values)
  | fallback {s b b' args : List Char} {e : Expr} {value : Json}
      (h : Filtered known inFallback s e) (hb : Blank b) (hb' : Blank b')
      (hargs : Arguments args [value]) :
      Filtered known inFallback (s ++ (b ++ '|' :: (b' ++ ("default".toList ++ args))))
        (.fallback e (.literal value))

/-- What a block holds: alternatives with `??` between them, grouped to the right. -/
inductive Chain (known : String → Bool) : Bool → List Char → Expr → Prop where
  | last {inFallback : Bool} {s : List Char} {e : Expr} (h : Filtered known inFallback s e) :
      Chain known inFallback s e
  | fallback {inFallback : Bool} {s b b' other : List Char} {e e' : Expr}
      (h : Filtered known inFallback s e) (hb : Blank b) (hb' : Blank b')
      (hother : Chain known true other e') :
      Chain known inFallback (s ++ (b ++ '?' :: '?' :: (b' ++ other))) (.fallback e e')

/-- What stands behind the opening of a block, its close included. -/
inductive Block (known : String → Bool) : List Char → Expr → Prop where
  | chain {b s b' : List Char} {e : Expr} (hb : Blank b) (h : Chain known false s e)
      (hb' : Blank b') : Block known (b ++ (s ++ (b' ++ ['}', '}']))) e

/-- The text opens no block. -/
def Free (s : List Char) : Prop := ¬['{', '{'] <:+: s

/-- Texts and blocks in turn. That the text with one more brace is free says that the opening
behind it is the leftmost. -/
inductive Parts (known : String → Bool) : List Char → List Expr → Prop where
  | text {s : List Char} (hs : Free s) : Parts known s (textPart s)
  | block {s inside rest : List Char} {e : Expr} {others : List Expr} (hs : Free (s ++ ['{']))
      (h : Block known inside e) (hrest : Parts known rest others) :
      Parts known (s ++ '{' :: '{' :: (inside ++ rest)) (textPart s ++ e :: others)

/-- A template that uses known filters, and its tree. -/
inductive Derives (known : String → Bool) : List Char → Expr → Prop where
  | parts {s : List Char} {parts : List Expr} (h : Parts known s parts) :
      Derives known s (ofParts parts)

end Reshape.Template.Grammar
