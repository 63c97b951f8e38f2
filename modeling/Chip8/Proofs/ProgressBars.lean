import Mathlib.Algebra.Order.Ring.Int
import Mathlib.Data.List.Chain
import Chip8.Proofs.Histories

/-!
# What a progress bar is told

A bar over a total moves at its `stops`: at each multiple of its rate up to the total, and at the
total itself. `Progress.barAfter` is the bar once so many items are done. It is open from the first
item on (`Progress.shown`) and closed from the last one on, and each item takes it to the next such
bar (`Progress.pass_barAfter`). So the numbers of the items alone tell what a bar is told, whatever
body works through them.
-/

namespace Chip8

namespace BarEvent

variable {ω : Type}

def isMoved : BarEvent ω → Bool
  | moved _ => true
  | _ => false

end BarEvent

namespace Progress

/-! ## Stops -/

/-- Whether a bar moves when so many items are done. -/
def IsStop (total rate done : Int) : Prop :=
  rate ∣ done ∨ done = total

instance (total rate done : Int) : Decidable (IsStop total rate done) :=
  inferInstanceAs (Decidable (_ ∨ _))

/-- The counts of done items, from one to a last one, at which a bar moves. -/
def stops (total rate : Int) (last : Nat) : List Int :=
  ((List.range' 1 last).map fun done : Nat => (done : Int)).filter fun done =>
    IsStop total rate done

section Stops

variable {total rate : Int} {count : Nat}

theorem stops_succ (total rate : Int) (count : Nat) :
    stops total rate (count + 1) =
      stops total rate count ++
        if IsStop total rate (count + 1) then [(count : Int) + 1] else [] := by
  rw [stops, List.range'_1_concat, List.map_append, List.filter_append]
  split
  · next stop =>
    rw [Nat.add_comm 1 count]
    simp [stops, stop]
  · next other =>
    rw [Nat.add_comm 1 count]
    simp [stops, other]

theorem stops_succ_of_isStop (stop : IsStop total rate (count + 1)) :
    stops total rate (count + 1) = stops total rate count ++ [(count : Int) + 1] := by
  rw [stops_succ, if_pos stop]

theorem stops_succ_of_not_isStop (other : ¬ IsStop total rate (count + 1)) :
    stops total rate (count + 1) = stops total rate count := by
  rw [stops_succ, if_neg other, List.append_nil]

/-- Each stop lies beyond the one before it, and the first one beyond the start. -/
theorem isChain_stops (total rate : Int) (last : Nat) :
    (0 :: stops total rate last).IsChain (· < ·) := by
  have rising : ((List.range' 1 last).map fun done : Nat => (done : Int)).Pairwise (· < ·) :=
    List.pairwise_map.mpr ((List.pairwise_lt_range' 1).imp fun less => by omega)
  refine (List.pairwise_cons.mpr ⟨fun stop among => ?_, rising.filter _⟩).isChain
  obtain ⟨number, inside, rfl⟩ := List.mem_map.mp (List.mem_filter.mp among).1
  have least := (List.mem_range'_1.mp inside).1
  omega

/-- Before the total, a bar moves at the multiples of its rate only. -/
theorem not_isStop_of_lt {done : Int} (below : done < total) (other : ¬ rate ∣ done) :
    ¬ IsStop total rate done := by
  rintro (divides | ends)
  · exact other divides
  · exact below.ne ends

/-- A further item makes a further full rate if it is a multiple of the rate. -/
theorem ediv_succ (positive : 0 < rate) (count : Nat) :
    ((count : Int) + 1) / rate = count / rate + if rate ∣ (count : Int) + 1 then 1 else 0 := by
  lift rate to Nat using positive.le
  exact_mod_cast Nat.succ_div

/-- Before the total, the last stop is the last multiple of the rate. -/
theorem getLastD_stops (positive : 0 < rate) (below : count < total) :
    (stops total rate count).getLastD 0 = rate * (count / rate) := by
  induction count with
  | zero => simp [stops]
  | succ count ih =>
    push_cast at below ⊢
    by_cases multiple : rate ∣ (count : Int) + 1
    · rw [stops_succ_of_isStop (.inl multiple), List.getLastD_concat,
        Int.mul_ediv_cancel' multiple]
    · rw [stops_succ_of_not_isStop (not_isStop_of_lt below multiple), ih (by omega),
        ediv_succ positive, if_neg multiple, add_zero]

/-- Before the total there are as many stops as multiples of the rate. -/
theorem length_stops (positive : 0 < rate) (below : count < total) :
    ((stops total rate count).length : Int) = count / rate := by
  induction count with
  | zero => simp [stops]
  | succ count ih =>
    push_cast at below ⊢
    by_cases multiple : rate ∣ (count : Int) + 1
    · rw [stops_succ_of_isStop (.inl multiple), List.length_append, Nat.cast_add, ih (by omega),
        ediv_succ positive, if_pos multiple]
      rfl
    · rw [stops_succ_of_not_isStop (not_isStop_of_lt below multiple), ih (by omega),
        ediv_succ positive, if_neg multiple, add_zero]

/-- The total is the last stop. -/
theorem stops_total (total rate : Int) (positive : 0 < total) :
    ∃ before : Nat, (before : Int) + 1 = total ∧
      stops total rate total.toNat = stops total rate before ++ [total] := by
  obtain ⟨before, number⟩ : ∃ before, total.toNat = before + 1 := ⟨total.toNat - 1, by omega⟩
  have ends : (before : Int) + 1 = total := by omega
  refine ⟨before, ends, ?_⟩
  rw [number, stops_succ_of_isStop (.inr ends), ends]

/-- Up to the total, stops at a twentieth of it are at least twenty and fewer than forty. -/
theorem length_stops_twentieth (large : 20 ≤ total) :
    20 ≤ (stops total (total / 20) total.toNat).length ∧
      (stops total (total / 20) total.toNat).length ≤ 39 := by
  obtain ⟨before, ends, parts⟩ := stops_total total (total / 20) (by omega)
  have positive : 0 < total / 20 := by omega
  have number : ((stops total (total / 20) before).length : Int) = before / (total / 20) :=
    length_stops positive (by omega)
  have least : 19 ≤ (before : Int) / (total / 20) :=
    (Int.le_ediv_iff_mul_le positive).mpr (by omega)
  have most : (before : Int) / (total / 20) < 39 :=
    (Int.ediv_lt_iff_lt_mul positive).mpr (by omega)
  rw [parts, List.length_append, List.length_singleton]
  omega

end Stops

/-! ## Movements -/

/-- How far a bar moves to each of some stops in turn, from where it stands. -/
def movements (reached : Int) : List Int → List Int
  | [] => []
  | stop :: rest => (stop - reached) :: movements stop rest

theorem length_movements (reached : Int) (stops : List Int) :
    (movements reached stops).length = stops.length := by
  induction stops generalizing reached with
  | nil => rfl
  | cons stop rest ih => rw [movements, List.length_cons, List.length_cons, ih]

theorem movements_concat (reached : Int) (stops : List Int) (stop : Int) :
    movements reached (stops ++ [stop]) =
      movements reached stops ++ [stop - stops.getLastD reached] := by
  induction stops generalizing reached with
  | nil => rfl
  | cons first rest ih => rw [List.cons_append, movements, ih, movements, List.getLastD_cons]; rfl

/-- All movements together lead from where the bar stands to the last stop. -/
theorem sum_movements (reached : Int) (stops : List Int) :
    (movements reached stops).sum = stops.getLastD reached - reached := by
  induction stops generalizing reached with
  | nil => simp [movements]
  | cons stop rest ih =>
    rw [movements, List.sum_cons, ih, List.getLastD_cons]
    omega

/-- The movements up to one of the stops lead there. -/
theorem sum_take_movements {reached stop : Int} {stops : List Int} {place : Nat}
    (there : stops[place]? = some stop) :
    ((movements reached stops).take (place + 1)).sum = stop - reached := by
  induction stops generalizing reached place with
  | nil => contradiction
  | cons first rest ih =>
    rw [movements, List.take_succ_cons, List.sum_cons]
    cases place with
    | zero =>
      cases there
      simp
    | succ place =>
      rw [ih there]
      omega

/-- Towards stops that lie one beyond the other, a bar moves forward only. -/
theorem pos_of_mem_movements {reached : Int} {stops : List Int}
    (rising : (reached :: stops).IsChain (· < ·)) :
    ∀ amount ∈ movements reached stops, 0 < amount := by
  induction stops generalizing reached with
  | nil => simp [movements]
  | cons stop rest ih =>
    obtain ⟨beyond, further⟩ := List.isChain_cons_cons.mp rising
    rw [movements, List.forall_mem_cons]
    exact ⟨by omega, ih further⟩

/-! ## The bar item by item -/

section Bar

variable {ω : Type} (progress : Progress ω)

/-- What the bar is told of one item, when it is begun and when it is done. -/
def pass (bar : Bar ω) (number : Int) : Bar ω :=
  progress.after number (progress.before number bar)

/-- The bar while so many items are done, as long as it is open. -/
def shown (count : Nat) : Bar ω where
  done := some ((stops progress.total progress.rate count).getLastD 0)
  told := (.opened progress.total progress.description "cycle" progress.options ::
    (movements 0 (stops progress.total progress.rate count)).map BarEvent.moved).reverse

/-- The bar once so many items are done, from the item zero on. -/
def barAfter (count : Nat) : Bar ω :=
  if count = 0 then Bar.hidden
  else if progress.total ≤ count then (progress.shown progress.total.toNat).close
  else progress.shown count

variable {progress} {count : Nat}

theorem barAfter_of_below (some : count ≠ 0) (below : count < progress.total) :
    progress.barAfter count = progress.shown count := by
  rw [barAfter, if_neg some, if_neg (by omega)]

theorem barAfter_of_total (positive : 0 < progress.total) (all : progress.total ≤ count) :
    progress.barAfter count = (progress.shown progress.total.toNat).close := by
  rw [barAfter, if_neg (by omega), if_pos all]

/-- The item zero opens the bar, and it stays open up to the total. -/
theorem before_barAfter (below : count < progress.total) :
    progress.before count (progress.barAfter count) = progress.shown count := by
  rcases Nat.eq_zero_or_pos count with rfl | later
  · rfl
  · rw [barAfter_of_below (by omega) below, before, if_neg (by omega)]

theorem moveTo_shown (stop : IsStop progress.total progress.rate (count + 1)) :
    (progress.shown count).moveTo (count + 1) = progress.shown (count + 1) := by
  simp only [Bar.moveTo, shown, stops_succ_of_isStop stop, movements_concat, List.getLastD_concat]
  simp

theorem shown_of_not_isStop (other : ¬ IsStop progress.total progress.rate (count + 1)) :
    progress.shown (count + 1) = progress.shown count := by
  rw [shown, stops_succ_of_not_isStop other, shown]

/-- An item that is done brings an open bar on, and the last one closes it. -/
theorem after_shown (below : count < progress.total) :
    progress.after count (progress.shown count) = progress.barAfter (count + 1) := by
  have moved : (if IsStop progress.total progress.rate (count + 1) then
      (progress.shown count).moveTo (count + 1) else progress.shown count) =
        progress.shown (count + 1) := by
    split
    · next stop => exact moveTo_shown stop
    · next other => exact (shown_of_not_isStop other).symm
  have divides : ((count : Int) + 1) % progress.rate = 0 ∨ (count : Int) + 1 = progress.total ↔
      IsStop progress.total progress.rate (count + 1) :=
    or_congr_left Int.dvd_iff_emod_eq_zero.symm
  simp only [after, divides, moved]
  split
  · next ends =>
    rw [barAfter_of_total (by omega) (by omega), ← ends]
    rfl
  · next goesOn => rw [barAfter_of_below (by omega) (by omega)]

/-- A bar that has closed is told nothing more. -/
theorem pass_of_closed (positive : 0 < progress.total) (all : progress.total ≤ count) :
    progress.pass (progress.barAfter count) count = progress.barAfter (count + 1) := by
  rw [barAfter_of_total positive all, barAfter_of_total positive (by omega), pass, before,
    if_neg (by omega)]
  have past : ¬ (count : Int) + 1 = progress.total := by omega
  simp only [after, past, if_false]
  split <;> rfl

/-- One more item leads from one bar to the next. -/
theorem pass_barAfter (positive : 0 < progress.total) (count : Nat) :
    progress.pass (progress.barAfter count) count = progress.barAfter (count + 1) := by
  rcases lt_or_ge (count : Int) progress.total with below | all
  · rw [pass, before_barAfter below, after_shown below]
  · exact pass_of_closed positive all

theorem foldl_pass (positive : 0 < progress.total) (count : Nat) :
    ((List.range count).map fun number : Nat => (number : Int)).foldl progress.pass Bar.hidden =
      progress.barAfter count := by
  induction count with
  | zero => rfl
  | succ count ih =>
    rw [List.range_succ, List.map_append, List.foldl_append, ih]
    exact pass_barAfter positive count

/-- What the bar was told, from its opening to its end. -/
theorem events_barAfter (positive : 0 < progress.total) (count : Nat) :
    (progress.barAfter count).events =
      if count = 0 then []
      else .opened progress.total progress.description "cycle" progress.options ::
        (movements 0 (stops progress.total progress.rate (min count progress.total.toNat))).map
          BarEvent.moved ++
        if progress.total ≤ count then [.closed] else [] := by
  rcases Nat.eq_zero_or_pos count with rfl | later
  · rfl
  · rw [if_neg later.ne']
    rcases lt_or_ge (count : Int) progress.total with below | all
    · rw [barAfter_of_below (by omega) below, Nat.min_eq_left (by omega), if_neg (by omega)]
      simp [Bar.events, shown]
    · rw [barAfter_of_total positive all, Nat.min_eq_right (by omega), if_pos all]
      simp [Bar.events, Bar.close, shown]

/-- The bar moves once for each stop. -/
theorem countP_isMoved_events (positive : 0 < progress.total) (count : Nat) :
    (progress.barAfter count).events.countP BarEvent.isMoved =
      (stops progress.total progress.rate (min count progress.total.toNat)).length := by
  have moves (amounts : List Int) :
      (amounts.map (BarEvent.moved (ω := ω))).countP BarEvent.isMoved = amounts.length := by
    rw [List.countP_map, List.countP_eq_length]
    exact fun _ _ => rfl
  rw [events_barAfter positive]
  split
  · next none => simp [none, stops]
  · split <;> simp [moves, length_movements, BarEvent.isMoved]

/-- Without the item zero, the bar stays hidden. -/
theorem foldl_pass_of_ne_zero {numbers : List Int} (none : ∀ number ∈ numbers, number ≠ 0) :
    numbers.foldl progress.pass Bar.hidden = Bar.hidden := by
  induction numbers with
  | nil => rfl
  | cons number rest ih =>
    obtain ⟨first, later⟩ := List.forall_mem_cons.mp none
    have hidden : progress.pass Bar.hidden number = Bar.hidden := by
      simp only [pass, before, if_neg first, after]
      split <;> split <;> rfl
    rw [List.foldl_cons, hidden]
    exact ih later

end Bar

/-! ## Numbers of items -/

/-- The numbers from zero on are those of the places, as long as none wraps. -/
theorem toInt_numbersFrom_zero {count : Nat} (few : count < 0x80000000) :
    (numbersFrom 0 count).map Int32.toInt =
      (List.range count).map fun number : Nat => (number : Int) := by
  rw [numbersFrom, List.map_map]
  refine List.map_congr_left fun number inside => ?_
  have below := List.mem_range.mp inside
  rw [Function.comp_apply, Int32.toInt_ofInt, Int.zero_add]
  exact Int.bmod_eq_of_le (by simp only [Int32.size]; omega) (by simp only [Int32.size]; omega)

/-- Numbers that begin above zero do not come back to it. -/
theorem ne_zero_of_mem_numbersFrom {first : Int} {count : Nat}
    (above : 1 ≤ first) (small : first < 0x80000000) (few : count < 0x80000000) :
    ∀ number ∈ (numbersFrom first count).map Int32.toInt, number ≠ 0 := by
  intro number among zero
  obtain ⟨item, listed, rfl⟩ := List.mem_map.mp among
  obtain ⟨place, inside, rfl⟩ := List.mem_map.mp listed
  have below := List.mem_range.mp inside
  rw [Int32.toInt_ofInt, ← Int.dvd_iff_bmod_eq_zero] at zero
  simp only [Int32.size] at zero
  omega

section Scan

variable {ω σ : Type} {progress : Progress ω} {count : Nat}

/-- What a bar is told comes of the numbers of the items alone. -/
theorem scanFrom_eq {first : Int} (countable : Countable progress.total)
    (begins : Countable first) (body : σ → Int32 → σ) (start : σ) :
    progress.scanFrom first count body start =
      .ok ((numbersFrom first count).foldl body start,
        ((numbersFrom first count).map Int32.toInt).foldl progress.pass Bar.hidden) := by
  rw [scanFrom, if_pos ⟨countable, begins⟩, List.foldl_map]
  exact congrArg Except.ok (Prod.ext (progress.scan_fst ..) (progress.scan_snd ..))

theorem scanFrom_zero (positive : 0 < progress.total) (small : progress.total < 0x80000000)
    (few : count < 0x80000000) (body : σ → Int32 → σ) (start : σ) :
    progress.scanFrom 0 count body start =
      .ok ((numbersFrom 0 count).foldl body start, progress.barAfter count) := by
  have countable : Countable progress.total := ⟨by omega, small⟩
  rw [scanFrom_eq countable (by decide), toInt_numbersFrom_zero few, foldl_pass positive]

end Scan

end Progress

/-- What the bar over a run is told: it is announced with no rate of its own. -/
theorem State.runWithProgress_eq {ω : Type} (state : State) {count : Int} (positive : 1 ≤ count)
    (small : count < 0x80000000) :
    let progress : Progress ω :=
      .announce count none (some ("Emulating (" ++ Text.grouped count ++ " cycles)")) []
    state.runWithProgress count =
      .ok (state.run count, (progress.barAfter count.toNat).events) := by
  intro progress
  have total : progress.total = count := rfl
  have scanned := @Progress.scanFrom_zero ω State progress count.toNat (by omega) small (by omega)
    (fun state _ => state.step) state
  rw [foldl_step, Progress.numbersFrom, List.length_map, List.length_range] at scanned
  exact congrArg (Except.map _) scanned

namespace Progress

/-! ## Whole scans -/

/-- **A bar is faithful.** Whatever the rate that is asked for and whatever body works through the
items, the bar does not disturb the work. It opens with the first item, moves forward to each stop
among the items and to nothing else, and closes at the total. Over items that begin above zero it
does not show. Over a run of twenty cycles or more it moves twenty to thirty-nine times. -/
theorem bar_faithful {ω σ : Type} {total : Int} (asked : Option Int)
    (description : Option String) (options : List (String × ω)) (body : σ → Int32 → σ) (start : σ)
    {count : Nat} (positive : 1 ≤ total) (small : total < 0x80000000)
    (few : count < 0x80000000) :
    let progress : Progress ω := announce total asked description options
    let rate := max 1 (min (asked.getD (total / 20)) total)
    let places := stops total rate (min count total.toNat)
    (∃ bar, ∃ amounts : List Int, progress.scanFrom 0 count body start =
        .ok ((numbersFrom 0 count).foldl body start, bar) ∧
      bar.events = (if count = 0 then [] else
        .opened total progress.description "cycle" progress.options :: amounts.map .moved ++
          if total ≤ count then [.closed] else []) ∧
      amounts.length = places.length ∧
      (∀ (place : Nat) (done : Int), places[place]? = some done →
        (amounts.take (place + 1)).sum = done) ∧
      (∀ amount ∈ amounts, 0 < amount) ∧
      amounts.sum = if total ≤ count then total else rate * (count / rate)) ∧
    (∀ first : Int, 1 ≤ first → first < 0x80000000 → ∃ bar,
      progress.scanFrom first count body start =
        .ok ((numbersFrom first count).foldl body start, bar) ∧ bar.events = []) ∧
    (20 ≤ total → ∀ state : State, ∃ events : List (BarEvent ω),
      state.runWithProgress total = .ok (state.run total, events) ∧
      20 ≤ events.countP BarEvent.isMoved ∧ events.countP BarEvent.isMoved ≤ 39) := by
  intro progress rate places
  have totals : progress.total = total := rfl
  have rates : progress.rate = rate := by
    simp only [progress, announce, rateFor, rate, Int.max_eq_left positive]
  have someRate : 0 < rate := by omega
  refine ⟨⟨progress.barAfter count, movements 0 places, ?_, ?_, length_movements 0 places,
    fun place done there => ?_, pos_of_mem_movements (isChain_stops ..), ?_⟩,
    fun first above low => ?_, fun large state => ?_⟩
  · exact scanFrom_zero (by omega) small few body start
  · rw [events_barAfter (by omega), totals, rates]
  · rw [sum_take_movements there, Int.sub_zero]
  · rw [sum_movements, Int.sub_zero]
    rcases lt_or_ge (count : Int) total with below | all
    · rw [if_neg (by omega)]
      simp only [places, Nat.min_eq_left (show count ≤ total.toNat by omega)]
      exact getLastD_stops someRate below
    · obtain ⟨before, -, parts⟩ := stops_total total rate (by omega)
      rw [if_pos all]
      simp only [places, Nat.min_eq_right (show total.toNat ≤ count by omega), parts,
        List.getLastD_concat]
  · have countable : Countable progress.total := ⟨by omega, small⟩
    refine ⟨_, scanFrom_eq countable ⟨by omega, low⟩ body start, ?_⟩
    rw [foldl_pass_of_ne_zero (ne_zero_of_mem_numbersFrom above low few)]
    rfl
  · refine ⟨_, state.runWithProgress_eq positive small, ?_⟩
    have twentieth : max 1 (min (total / 20) (max total 1)) = total / 20 := by omega
    rw [countP_isMoved_events (show 0 < total by omega)]
    simp only [announce, rateFor, Option.getD_none, twentieth, Nat.min_self]
    exact length_stops_twentieth large

/-- A bar over twenty items is asked to move at every seventh. Over twenty-three items it moves to
the seventh, the fourteenth and the last of the twenty, and is told nothing of the other three. -/
theorem bar_faithful_past_total :
    let progress : Progress Unit := announce 20 (some 7) none []
    let sum (total item : Int32) : Int32 := total + item
    ((1 : Int) ≤ 20 ∧ (20 : Int) < 0x80000000 ∧ 23 < 0x80000000) ∧
      (∃ bar, ∃ amounts : List Int, progress.scanFrom 0 23 sum 0 = .ok (253, bar) ∧
        bar.events = .opened 20 progress.description "cycle" [] :: amounts.map .moved ++
          [.closed] ∧
        amounts.length = 3 ∧ (amounts.take 2).sum = 14 ∧ amounts.sum = 20) ∧
      (∃ bar, progress.scanFrom 1 23 sum 0 = .ok (276, bar) ∧ bar.events = []) ∧
      ∃ events : List (BarEvent Unit),
        (State.fresh ⟨0, 0⟩).runWithProgress 20 = .ok ((State.fresh ⟨0, 0⟩).run 20, events) ∧
        20 ≤ events.countP BarEvent.isMoved := by
  intro progress sum
  obtain ⟨⟨bar, amounts, scanned, told, moves, leads, -, whole⟩, above, run⟩ :=
    bar_faithful (some 7) none ([] : List (String × Unit)) sum 0 (by decide : (1 : Int) ≤ 20)
      (by decide) (by decide : 23 < 0x80000000)
  obtain ⟨hidden, further, silent⟩ := above 1 (by decide) (by decide)
  obtain ⟨events, ran, least, -⟩ := run (by decide) (State.fresh ⟨0, 0⟩)
  have places : stops 20 7 20 = [7, 14, 20] := by decide
  have sums : (numbersFrom 0 23).foldl sum 0 = 253 ∧ (numbersFrom 1 23).foldl sum 0 = 276 := by
    decide +kernel
  rw [sums.1] at scanned
  rw [sums.2] at further
  refine ⟨by decide, ⟨bar, amounts, scanned, told, moves.trans ?_, leads 1 14 ?_, whole⟩,
    ⟨hidden, further, silent⟩, events, ran, least⟩
  · exact congrArg List.length places
  · exact congrArg (fun places : List Int => places[1]?) places

end Progress

end Chip8
