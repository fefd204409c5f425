import ScopePaint.Proofs.Regex.LiteralSearch

/-!
# Searches that are given up

A loop whose body can be met in two ways has twice as many ways for each character more. If what
comes behind the loop is never met, all of them are tried: `(?:x|x)*y` at `k` times `x` and something
else goes back `4 * 2 ^ k - 1` times before it comes to the choices that were there before
(`run_turns`). From 22 on that is more than an attempt may go back, so the attempt is given up
(`run_turns_eq_error`), and with it the search (`search_doubling`). Lines of this kind are short.
-/

set_option autoImplicit false

namespace ScopePaint.Regex

/-- Any number of turns, as many as possible. -/
def anyNumber : Bounds := ⟨0, none, true⟩

/-- An `x`, in two ways. -/
def eitherWay : Node := .alt (.literal 'x') (.literal 'x')

/-- Any number of `x`, each in two ways, and a `y`. -/
def doubling : Node := .seq (.loop anyNumber [] eitherWay) (.literal 'y')

/-- What is to be done where a turn of the loop begins. -/
def turnGoals (s : State) (count : Nat) : List Goal :=
  [.node eitherWay, .turn anyNumber [] eitherWay (count + 1) (some (s.cursor.index, s.captures)),
    .node (.literal 'y')]

/-- How often the loop goes back at `k` times `x`. -/
def backs (k : Nat) : Nat := 4 * Nat.pow 2 k - 1

/-- How many steps the loop takes at `k` times `x`. -/
def steps (k : Nat) : Nat := 10 * Nat.pow 2 k - 6

/-- One more `x` is met in two ways, and what is behind the loop is tried once more. -/
theorem backs_succ (k : Nat) : backs (k + 1) = backs k + (backs k + 1) := by
  have hpos : 0 < Nat.pow 2 k := Nat.two_pow_pos k
  have hdouble : Nat.pow 2 (k + 1) = Nat.pow 2 k * 2 := rfl
  rw [backs, backs, hdouble]
  omega

/-- One more `x` takes the steps behind it twice, and six more. -/
theorem steps_succ (k : Nat) : steps (k + 1) = steps k + (steps k + 1 + 2) + 3 := by
  have hpos : 0 < Nat.pow 2 k := Nat.two_pow_pos k
  have hdouble : Nat.pow 2 (k + 1) = Nat.pow 2 k * 2 := rfl
  rw [steps, steps, hdouble]
  omega

section Machine

variable {p : Program} {origin fuel retries count k : Nat} {s s' t : State} {goals more : List Goal}
  {choices : List Choice} {x c : Char} {rest : List Char}

/-- A character that stands at the place is read. -/
theorem run_read (h : s.next = some (x, s')) :
    run p origin (fuel + 1) retries s (.node (.literal x) :: goals) choices =
      run p origin fuel retries s' goals choices := by
  rw [run, step, stepNode, h]
  simp only [if_true]

/-- A character that does not stand at the place leads back. -/
theorem run_refuse (h : s.next = some (c, s')) (hx : x ≠ c) :
    run p origin (fuel + 1) (retries + 1) s (.node (.literal x) :: goals)
      (.resume t more :: choices) = run p origin fuel retries t more choices := by
  rw [run, step, stepNode, h]
  simp only [if_neg hx, backtrack]

/-- Where an attempt must not go back any more, a refused character ends it. -/
theorem run_refuse_eq_error (h : s.next = some (c, s')) (hx : x ≠ c) :
    run p origin (fuel + 1) 0 s (.node (.literal x) :: goals) choices = .error .retryLimit := by
  rw [run, step, stepNode, h]
  simp only [if_neg hx]

/-- The first way is tried, and the second one is kept for later. -/
theorem run_eitherWay : run p origin (fuel + 1) retries s (.node eitherWay :: goals) choices =
    run p origin fuel retries s (.node (.literal 'x') :: goals)
      (.resume s (.node (.literal 'x') :: goals) :: choices) := rfl

/-- Behind a turn that has consumed something the next one begins. -/
theorem run_turn {entry : Nat × List Capture} (h : entry.1 ≠ s.cursor.index) :
    run p origin (fuel + 1) retries s
      [.turn anyNumber [] eitherWay count (some entry), .node (.literal 'y')] choices =
      run p origin fuel retries s (turnGoals s count)
        (.resume s [.node (.literal 'y')] :: choices) := by
  rw [run, step, endTurn]
  simp only [if_neg h]
  rfl

/-- An `x` is read, and the next turn begins behind it. -/
theorem run_read_turn (hlimit : s.limit = none) (hafter : s.cursor.after = 'x' :: rest) :
    run p origin (fuel + 2) retries s (.node (.literal 'x') :: (turnGoals s count).tail) choices =
      run p origin fuel retries (s.behind ['x'] rest) (turnGoals (s.behind ['x'] rest) (count + 1))
        (.resume (s.behind ['x'] rest) [.node (.literal 'y')] :: choices) := by
  have hmoved : s.cursor.index ≠ (s.behind ['x'] rest).cursor.index := by
    simp [State.behind]
  rw [run_read (next_of_after_eq_cons hlimit hafter), turnGoals, List.tail_cons, run_turn hmoved]

/-- **The turns of the loop** go back more than twice as often for each `x` more, before the machine
goes on with the choices that were there before. -/
theorem run_turns (k : Nat) {fuel retries count : Nat} {s : State} {choices : List Choice}
    (hx : 'x' ≠ c) (hy : 'y' ≠ c) (hlimit : s.limit = none)
    (hafter : s.cursor.after = List.replicate k 'x' ++ c :: rest) :
    run p origin (steps k + fuel) (backs k + retries) s (turnGoals s count)
      (.resume s [.node (.literal 'y')] :: .resume t more :: choices) =
      run p origin fuel retries t more choices := by
  induction k generalizing fuel retries count s t more choices with
  | zero =>
    have hnext : s.next = some (c, s.behind [c] rest) := next_of_after_eq_cons hlimit hafter
    have hfuel : steps 0 + fuel = fuel + 1 + 1 + 1 + 1 := Nat.add_comm 4 fuel
    have hretries : backs 0 + retries = retries + 1 + 1 + 1 := Nat.add_comm 3 retries
    rw [hfuel, hretries, turnGoals, run_eitherWay, run_refuse hnext hx, run_refuse hnext hx,
      run_refuse hnext hy]
  | succ k ih =>
    have hfuel : steps (k + 1) + fuel = steps k + (steps k + (fuel + 1) + 2) + 2 + 1 := by
      rw [steps_succ]
      omega
    have hretries : backs (k + 1) + retries = backs k + (backs k + (retries + 1)) := by
      rw [backs_succ]
      omega
    have hmore : s.cursor.after = 'x' :: (List.replicate k 'x' ++ c :: rest) := hafter
    have hbehind : (s.behind ['x'] (List.replicate k 'x' ++ c :: rest)).limit = none := hlimit
    rw [hfuel, hretries, turnGoals, run_eitherWay]
    -- The first way of the `x` and all turns behind it, then the second way, then no further turn.
    calc run p origin (steps k + (steps k + (fuel + 1) + 2) + 2) (backs k + (backs k + (retries + 1)))
          s (.node (.literal 'x') :: (turnGoals s count).tail)
          (.resume s (.node (.literal 'x') :: (turnGoals s count).tail) ::
            .resume s [.node (.literal 'y')] :: .resume t more :: choices)
        = run p origin (steps k + (fuel + 1) + 2) (backs k + (retries + 1)) s
            (.node (.literal 'x') :: (turnGoals s count).tail)
            (.resume s [.node (.literal 'y')] :: .resume t more :: choices) := by
          rw [run_read_turn hlimit hmore, ih hbehind rfl]
      _ = run p origin (fuel + 1) (retries + 1) s [.node (.literal 'y')]
            (.resume t more :: choices) := by
          rw [run_read_turn hlimit hmore, ih hbehind rfl]
      _ = run p origin fuel retries t more choices :=
          run_refuse (next_of_after_eq_cons hlimit hmore) (by decide)

/-- **An attempt that may go back less often is given up.** -/
theorem run_turns_eq_error (k : Nat) {fuel retries count : Nat} {s : State} {choices : List Choice}
    (hx : 'x' ≠ c) (hy : 'y' ≠ c) (hlimit : s.limit = none)
    (hafter : s.cursor.after = List.replicate k 'x' ++ c :: rest) (hretries : retries < backs k) :
    run p origin (steps k + fuel) retries s (turnGoals s count)
      (.resume s [.node (.literal 'y')] :: choices) = .error .retryLimit := by
  induction k generalizing fuel retries count s choices with
  | zero =>
    have hnext : s.next = some (c, s.behind [c] rest) := next_of_after_eq_cons hlimit hafter
    have hfuel : steps 0 + fuel = fuel + 1 + 1 + 1 + 1 := Nat.add_comm 4 fuel
    rw [hfuel, turnGoals, run_eitherWay]
    match retries, hretries with
    | 0, _ => exact run_refuse_eq_error hnext hx
    | 1, _ => rw [run_refuse hnext hx, run_refuse_eq_error hnext hx]
    | 2, _ => rw [run_refuse hnext hx, run_refuse hnext hx, run_refuse_eq_error hnext hy]
  | succ k ih =>
    have hfuel : steps (k + 1) + fuel = steps k + (steps k + (fuel + 1) + 2) + 2 + 1 := by
      rw [steps_succ]
      omega
    have hmore : s.cursor.after = 'x' :: (List.replicate k 'x' ++ c :: rest) := hafter
    have hbehind : (s.behind ['x'] (List.replicate k 'x' ++ c :: rest)).limit = none := hlimit
    rw [hfuel, turnGoals, run_eitherWay]
    show run p origin _ retries s (.node (.literal 'x') :: (turnGoals s count).tail) _ = _
    rw [run_read_turn hlimit hmore]
    rw [backs_succ] at hretries
    -- The limit is reached in the turns behind the first way, or in those behind the second one, or
    -- where there is no further turn.
    rcases Nat.lt_or_ge retries (backs k) with hfirst | hfirst
    · exact ih hbehind rfl hfirst
    · obtain ⟨left, rfl⟩ := Nat.exists_eq_add_of_le hfirst
      rw [run_turns k hx hy hbehind rfl]
      show run p origin _ left s (.node (.literal 'x') :: (turnGoals s count).tail) _ = _
      rw [run_read_turn hlimit hmore]
      rcases Nat.lt_or_ge left (backs k) with hsecond | hsecond
      · exact ih hbehind rfl hsecond
      · obtain rfl : left = backs k + 0 := by omega
        rw [run_turns k hx hy hbehind rfl]
        exact run_refuse_eq_error (next_of_after_eq_cons hlimit hmore) (by decide)

end Machine

/-- **A search for such an expression is given up** at a text of 22 to 50 times `x` with neither an
`x` nor a `y` behind them. -/
theorem search_doubling {r : Regex} (hr : r.program.root = doubling) {k : Nat} (hlow : 22 ≤ k)
    (hhigh : k ≤ 50) {c : Char} (hx : 'x' ≠ c) (hy : 'y' ≠ c) (rest : List Char) :
    r.search (List.replicate k 'x' ++ c :: rest) 0 = .error .retryLimit := by
  have hlow' : 4194304 ≤ Nat.pow 2 k := Nat.pow_le_pow_right (n := 2) (by decide) hlow
  have hhigh' : Nat.pow 2 k ≤ 1125899906842624 := Nat.pow_le_pow_right (n := 2) (by decide) hhigh
  have hlimit : stepLimit = 1152921504606846976 := rfl
  have hretries : retryLimit < backs k := by
    rw [retryLimit, backs]
    omega
  obtain ⟨fuel, hfuel⟩ : ∃ fuel, stepLimit + 2 * r.program.root.size = steps k + fuel + 2 := by
    refine ⟨stepLimit + 2 * r.program.root.size - steps k - 2, ?_⟩
    rw [hlimit, steps]
    omega
  have hattempt : r.program.matchAt 0 ⟨[], List.replicate k 'x' ++ c :: rest, 0⟩ =
      .error .retryLimit := by
    rw [Program.matchAt, hfuel, hr]
    exact run_turns_eq_error k hx hy rfl rfl hretries
  have hsearch : r.search (List.replicate k 'x' ++ c :: rest) 0 =
      searchFrom r.program (List.replicate k 'x' ++ c :: rest) 0 [] 0
        (List.replicate k 'x' ++ c :: rest) := search_append [] _
  rw [hsearch]
  cases htext : List.replicate k 'x' ++ c :: rest with
  | nil => exact absurd htext (by simp)
  | cons first others =>
    rw [searchFrom, attempt, ← htext, hattempt]
    rfl

end ScopePaint.Regex
