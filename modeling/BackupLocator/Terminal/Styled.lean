import BackupLocator.Terminal.CellWidth
import BackupLocator.Text.Cut

/-!
# Styled texts

A plain text in which stretches have a style. A text is cut into lines, and its tabs are filled up
with blanks, with the stretches kept where they are. A stretch that covers nothing of a piece is not
carried over to it.
-/

namespace BackupLocator.Terminal

/-- A stretch of a text, and the style that it has. -/
structure Stretch where
  start : Nat
  stop : Nat
  style : List Char
  deriving DecidableEq, Repr

namespace Stretch

/-- A stretch as seen from `a`, as far as it lies before `b`; `none` where nothing is left. -/
def within? (a b : Nat) (s : Stretch) : Option Stretch :=
  let start := s.start - a
  let stop := min s.stop b - a
  if start < stop then some ⟨start, stop, s.style⟩ else none

/-- A stretch of a text that stands behind `n` characters. -/
def behind (n : Nat) (s : Stretch) : Stretch := ⟨s.start + n, s.stop + n, s.style⟩

end Stretch

/-- A plain text with the stretches that have a style. -/
structure Styled where
  text : List Char
  stretches : List Stretch
  deriving DecidableEq, Repr

namespace Styled

/-- The piece of a text from `a` up to `b`. -/
def slice (t : Styled) (a b : Nat) : Styled :=
  ⟨(t.text.take b).drop a, t.stretches.filterMap (Stretch.within? a b)⟩

/-- A text behind another one. -/
def append (s t : Styled) : Styled :=
  ⟨s.text ++ t.text, s.stretches ++ t.stretches.map (Stretch.behind s.text.length)⟩

/-- A text of nothing. -/
def empty : Styled := ⟨[], []⟩

/-- The first `n` characters of a text that has more. What has its style only behind them is left
without a stretch. -/
def crop (t : Styled) (n : Nat) : Styled :=
  if t.text.length ≤ n then t
  else
    let kept := t.stretches.filter (·.start < n)
    ⟨t.text.take n, kept.map fun s => { s with stop := min s.stop n }⟩

/-- The pieces from `start` on, between ascending positions. -/
def slicesFrom (t : Styled) (start : Nat) : List Nat → List Styled
  | [] => [t.slice start t.text.length]
  | n :: ns => t.slice start n :: slicesFrom t n ns

/-- The pieces of a text between ascending positions; the text itself where there are none. -/
def cutAt (t : Styled) (ns : List Nat) : List Styled :=
  if ns.isEmpty then [t] else t.slicesFrom 0 ns

/-- The positions behind each occurrence of a character, where `n` characters stand in front. -/
def positionsBehind (c : Char) (n : Nat) : List Char → List Nat
  | [] => []
  | d :: s => (if d = c then [n + 1] else []) ++ positionsBehind c (n + 1) s

/-! ## Lines -/

/-- A piece without the line end that it ends with. -/
def withoutLineEnd (t : Styled) : Styled :=
  if t.text.getLast? = some '\n' then t.slice 0 (t.text.length - 1) else t

/-- The lines of a text. -/
def lines (t : Styled) : List Styled :=
  (t.cutAt (positionsBehind '\n' 0 t.text)).map withoutLineEnd

/-- Whether a character ends a line where the width of a text is looked for. -/
def endsLine (c : Char) : Bool :=
  c = '\n' || (0x1C ≤ c.toNat && c.toNat ≤ 0x1E) || c = '\u0085' || c = '\u2028' || c = '\u2029'

/-- The cells of the widest line of a text, where `seen` is what has been read of a line,
backwards. -/
def widthFrom (seen : List Char) : List Char → Nat
  | [] => cells seen.reverse
  | c :: s =>
    if endsLine c then max (cells seen.reverse) (widthFrom [] s) else widthFrom (c :: seen) s

/-- The cells of the widest line of a text. -/
def width (t : Styled) : Nat := widthFrom [] t.text

/-! ## Tabs -/

/-- The distance of tab stops. -/
def tabStop : Nat := 8

/-- A piece that ends with a tab, as it stands behind `column` cells. The tab is one blank, and as
many more as lead to the next stop. What has the tab's style has its blanks too. -/
def filled (column : Nat) (t : Styled) : Styled :=
  let text := t.text.dropLast ++ [' ']
  let reached := column + cells text
  let added := (reached + tabStop - 1) / tabStop * tabStop - reached
  ⟨text ++ List.replicate added ' ', t.stretches.map fun s =>
    if text.length ≤ s.stop then { s with stop := s.stop + added } else s⟩

/-- Pieces that each end with a tab, but for the last, put together behind `column` cells. -/
def joinTabbed (column : Nat) : List Styled → Styled
  | [] => empty
  | [t] => t
  | t :: ts =>
    let t := t.filled column
    t.append (joinTabbed (column + cells t.text) ts)

/-- A line with blanks for its tabs. -/
def expandTabs (t : Styled) : Styled :=
  if t.text.contains '\t' then joinTabbed 0 (t.cutAt (positionsBehind '\t' 0 t.text)) else t

end Styled

end BackupLocator.Terminal
