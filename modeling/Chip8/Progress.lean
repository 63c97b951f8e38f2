import Chip8.Failure
import Chip8.Cycle

/-!
# Progress of a long run

A bar that is shown while items numbered from zero are worked through. It opens when item zero is
begun, moves each time a multiple of its rate is done and when all is done, and closes then. Items
may be fewer or more than announced, or start elsewhere: the bar follows their numbers.

`scan` works through items with a body and keeps what the bar was told; the body never sees the bar.
-/

namespace Chip8

/-- What is announced about a run. `ω` is the type of the values of further options, which are
handed on to whoever draws the bar. -/
structure Progress (ω : Type) where
  total : Int
  /-- Items between two movements of the bar. -/
  rate : Int
  description : String
  options : List (String × ω)

/-- What a bar is told. -/
inductive BarEvent (ω : Type) where
  | opened (total : Int) (description : String) (unit : String) (options : List (String × ω))
  /-- So many more items are done. -/
  | moved (amount : Int)
  | closed
deriving Repr

namespace Progress

variable {ω σ α : Type}

/-- The rate that is used for a total: about twenty movements if none is asked for, at least one
item, and not more than there are. -/
def rateFor (total : Int) (asked : Option Int) : Int :=
  max 1 (min (asked.getD (total / 20)) (max total 1))

/-- The description that is used if none is given. -/
def defaultDescription (total : Int) : String :=
  "Running (" ++ Text.grouped total ++ " cycles)"

/-- How an announcement is given by a caller: the total, the rate and the description, and any
further options. -/
def signature : Signature where
  parameters := ["n", "print_rate", "desc"]
  needed := ["n"]
  isOpen := true

/-- The names of options that the announcement fixes itself; those of a caller do not count. -/
def reserved : List String := ["total", "desc", "unit"]

/-- The names of what the bar itself is handed. No option may have them. -/
def handed : List String := ["self", "total"]

/-- An announcement. An empty description counts as none. -/
def announce (total : Int) (rate : Option Int) (description : Option String)
    (options : List (String × ω)) : Progress ω where
  total
  rate := rateFor total rate
  description := match description with
    | some text => if text.isEmpty then defaultDescription total else text
    | none => defaultDescription total
  options := options.filter fun option => !reserved.contains option.1

/-- An announcement whose options come from outside. -/
def announce? (total : Int) (rate : Option Int) (description : Option String)
    (options : List (String × ω)) : Except Failure (Progress ω) :=
  if options.any fun option => handed.contains option.1 then .error .arguments
  else .ok (announce total rate description options)

/-- A bar while it is shown or not: how many items it has been told of if it is open, and all that
it was told, last first. -/
structure Bar (ω : Type) where
  done : Option Int
  told : List (BarEvent ω)

namespace Bar

/-- A bar that was never opened. -/
def hidden : Bar ω := ⟨none, []⟩

def isOpen (bar : Bar ω) : Bool :=
  bar.done.isSome

/-- All that the bar was told, in order. -/
def events (bar : Bar ω) : List (BarEvent ω) :=
  bar.told.reverse

/-- Moves an open bar to a number of items. -/
def moveTo (bar : Bar ω) (done : Int) : Bar ω :=
  match bar.done with
  | some before => ⟨some done, .moved (done - before) :: bar.told⟩
  | none => bar

/-- Closes an open bar. -/
def close (bar : Bar ω) : Bar ω :=
  match bar.done with
  | some _ => ⟨none, .closed :: bar.told⟩
  | none => bar

end Bar

/-- An item is begun. -/
def before (progress : Progress ω) (number : Int) (bar : Bar ω) : Bar ω :=
  if number = 0 then
    ⟨some 0, .opened progress.total progress.description "cycle" progress.options :: bar.told⟩
  else bar

/-- An item is done. -/
def after (progress : Progress ω) (number : Int) (bar : Bar ω) : Bar ω :=
  let done := number + 1
  let moved := if done % progress.rate = 0 ∨ done = progress.total then bar.moveTo done else bar
  if done = progress.total then moved.close else moved

/-- Works through items with a body; `number` tells the number of an item. -/
def scan (progress : Progress ω) (number : α → Int) (body : σ → α → σ) (start : σ)
    (items : List α) : σ × Bar ω :=
  items.foldl
    (fun (carry, bar) item =>
      (body carry item, progress.after (number item) (progress.before (number item) bar)))
    (start, Bar.hidden)

/-- Numbers that items can have: those of signed words of 32 bits. -/
def Countable (number : Int) : Prop :=
  -0x80000000 ≤ number ∧ number < 0x80000000

instance (number : Int) : Decidable (Countable number) :=
  inferInstanceAs (Decidable (_ ∧ _))

/-- The numbers from a first one on. They wrap after the greatest one. -/
def numbersFrom (first : Int) (count : Nat) : List Int32 :=
  (List.range count).map fun place : Nat => Int32.ofInt (first + place)

/-- Works through so many numbers, from a first one on. The total is compared with each number, so
both must be numbers that items can have, even if there is nothing to work through. -/
def scanFrom (progress : Progress ω) (first : Int) (count : Nat) (body : σ → Int32 → σ)
    (start : σ) : Except Failure (σ × Bar ω) :=
  if Countable progress.total ∧ Countable first then
    .ok (progress.scan Int32.toInt body start (numbersFrom first count))
  else .error .overflow

/-- The bar does not disturb the work. -/
theorem scan_fst (progress : Progress ω) (number : α → Int) (body : σ → α → σ) (start : σ)
    (items : List α) : (progress.scan number body start items).1 = items.foldl body start := by
  suffices general : ∀ (bar : Bar ω),
      (items.foldl (fun (carry, bar) item =>
        (body carry item, progress.after (number item) (progress.before (number item) bar)))
        (start, bar)).1 = items.foldl body start from general Bar.hidden
  induction items generalizing start with
  | nil => exact fun _ => rfl
  | cons item rest ih => exact fun bar => ih (body start item) _

/-- The work does not disturb the bar. -/
theorem scan_snd (progress : Progress ω) (number : α → Int) (body : σ → α → σ) (start : σ)
    (items : List α) :
    (progress.scan number body start items).2 =
      items.foldl (fun bar item => progress.after (number item) (progress.before (number item) bar))
        Bar.hidden := by
  suffices general : ∀ (bar : Bar ω),
      (items.foldl (fun (carry, bar) item =>
        (body carry item, progress.after (number item) (progress.before (number item) bar)))
        (start, bar)).2 =
      items.foldl (fun bar item =>
        progress.after (number item) (progress.before (number item) bar)) bar
    from general Bar.hidden
  induction items generalizing start with
  | nil => exact fun _ => rfl
  | cons item rest ih => exact fun bar => ih (body start item) _

end Progress

namespace State

/-- `run`, with a bar over the cycles. -/
def runWithProgress {ω : Type} (state : State) (count : Int) :
    Except Failure (State × List (BarEvent ω)) :=
  let description := "Emulating (" ++ Text.grouped count ++ " cycles)"
  let progress : Progress ω := .announce count none (some description) []
  (progress.scanFrom 0 count.toNat (fun state _ => state.step) state).map
    fun (after, bar) => (after, bar.events)

end State

end Chip8
