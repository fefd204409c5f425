import Mathlib.Data.List.Sort
import ScopePaint.Proofs.Style.Runs

/-!
# Runs partition a range

A range is split at all ends of stretches inside of it, so no stretch begins or ends inside of a run
(`StyledText.free_of_mem_between`). What is found at the first byte of a run is then found at all of
its bytes (`StyledText.Ordered.valuesAt_eq_of_mem_between`), although only that byte is looked at.
Each value is kept in the layer of its own kind (`StyledText.Written.hasKeys`), so the values of a run
come in the order of their kinds. Together with the cuts themselves this is all there is to runs
(`StyledText.runs_partition`).
-/

set_option autoImplicit false

namespace ScopePaint

open Text (Span IsBoundary Leads slice?)

/-- All keys are listed. -/
theorem StyleKey.mem_all (key : StyleKey) : key ∈ StyleKey.all := by
  cases key <;> decide

/-- No key is listed twice. -/
theorem StyleKey.nodup_all : StyleKey.all.Nodup := by decide

namespace Layer

variable {l : Layer} {r : Span} {key : StyleKey} {a b : Nat}

/-- A stretch of a layer begins or ends at an offset. -/
def EndsAt (l : Layer) (n : Nat) : Prop := ∃ s ∈ l, n = s.range.start ∨ n = s.range.stop

/-- **Between two offsets that no stretch separates** a layer does not change. -/
theorem Ordered.get?_eq_of_free (h : l.Ordered) (hle : a ≤ b)
    (hfree : ∀ n, l.EndsAt n → n ≤ a ∨ b < n) : get? b l = get? a l := by
  refine h.get?_eq_of_iff h fun v => exists_congr fun s => and_congr_right fun hs => ?_
  have hstart := hfree _ ⟨s, hs, .inl rfl⟩
  have hstop := hfree _ ⟨s, hs, .inr rfl⟩
  rw [Span.contains_iff, Span.contains_iff]
  refine and_congr_left fun _ => ⟨fun hin => ?_, fun hin => ?_⟩
  · omega
  · omega

/-- All values of a layer are of one kind. -/
def HasKey (key : StyleKey) (l : Layer) : Prop := ∀ s ∈ l, s.value.key = key

/-- What is left of a stretch has its value. -/
theorem value_of_mem_cutStretch {s s' : Stretch} (h : s' ∈ cutStretch r s) : s'.value = s.value := by
  unfold cutStretch at h
  split at h
  · rw [List.mem_singleton.1 h]
  · rcases List.mem_append.1 h with h | h
    · split at h
      · rw [List.mem_singleton.1 h]
      · exact absurd h List.not_mem_nil
    · split at h
      · rw [List.mem_singleton.1 h]
      · exact absurd h List.not_mem_nil

/-- Cutting keeps the key of a layer. -/
theorem HasKey.cut (h : l.HasKey key) (r : Span) : (Layer.cut r l).HasKey key := by
  intro s' hs'
  obtain ⟨s, hs, hs'⟩ := List.mem_flatMap.1 hs'
  rw [value_of_mem_cutStretch hs']
  exact h s hs

/-- Putting in a value with the key of the layer keeps it. -/
theorem HasKey.put {v : StyleValue} (h : l.HasKey v.key) (r : Span) :
    (Layer.put r v l).HasKey v.key := by
  intro s hs
  rcases mem_put.1 hs with rfl | hs
  · rfl
  · exact h.cut r s hs

end Layer

namespace StyledText

variable {t : StyledText} {r s : Span} {ns : List Nat} {m n offset : Nat} {runs : List Run}

/-! ## Neighbouring cuts -/

/-- A range between neighbours of an ascending list ends at two of them, and none is in between. -/
theorem of_mem_between (hsorted : ns.Pairwise (· < ·)) (h : s ∈ between ns) :
    s.start ∈ ns ∧ s.stop ∈ ns ∧ s.start < s.stop ∧ ∀ n ∈ ns, n ≤ s.start ∨ s.stop ≤ n := by
  induction ns with
  | nil => exact absurd h List.not_mem_nil
  | cons a rest ih =>
    obtain ⟨hfirst, hrest⟩ := List.pairwise_cons.1 hsorted
    cases rest with
    | nil => exact absurd h List.not_mem_nil
    | cons b more =>
      rcases List.mem_cons.1 h with rfl | h
      · refine ⟨List.mem_cons_self, by simp, hfirst b List.mem_cons_self, ?_⟩
        refine List.forall_mem_cons.2 ⟨.inl (Nat.le_refl _), List.forall_mem_cons.2 ?_⟩
        exact ⟨.inr (Nat.le_refl _), fun n hn =>
          .inr (Nat.le_of_lt ((List.pairwise_cons.1 hrest).1 n hn))⟩
      · obtain ⟨hstart, hstop, hlt, hnone⟩ := ih hrest h
        refine ⟨List.mem_cons_of_mem _ hstart, List.mem_cons_of_mem _ hstop, hlt, ?_⟩
        exact List.forall_mem_cons.2 ⟨.inl (Nat.le_of_lt (hfirst _ hstart)), hnone⟩

/-- Of two members of an ascending list, a range ends at the greater one. -/
theorem exists_stop_of_lt (hsorted : ns.Pairwise (· < ·)) (hm : m ∈ ns) (hn : n ∈ ns)
    (hlt : m < n) : ∃ s ∈ between ns, s.stop = n := by
  induction ns generalizing m with
  | nil => exact absurd hm List.not_mem_nil
  | cons a rest ih =>
    obtain ⟨hfirst, hrest⟩ := List.pairwise_cons.1 hsorted
    have hn : n ∈ rest := by
      rcases List.mem_cons.1 hn with rfl | hn
      · rcases List.mem_cons.1 hm with rfl | hm
        · exact absurd hlt (Nat.lt_irrefl _)
        · exact absurd (hfirst m hm) (Nat.not_lt_of_lt hlt)
      · exact hn
    cases rest with
    | nil => exact absurd hn List.not_mem_nil
    | cons b more =>
      rcases List.mem_cons.1 hn with rfl | hmore
      · exact ⟨⟨a, n⟩, List.mem_cons_self, rfl⟩
      · have hb := (List.pairwise_cons.1 hrest).1 n hmore
        obtain ⟨s, hs, hstop⟩ := ih hrest List.mem_cons_self hn hb
        exact ⟨s, List.mem_cons_of_mem _ hs, hstop⟩

/-- Of two members of an ascending list, a range begins at the lesser one. -/
theorem exists_start_of_lt (hsorted : ns.Pairwise (· < ·)) (hm : m ∈ ns) (hn : n ∈ ns)
    (hlt : m < n) : ∃ s ∈ between ns, s.start = m := by
  induction ns with
  | nil => exact absurd hm List.not_mem_nil
  | cons a rest ih =>
    obtain ⟨hfirst, hrest⟩ := List.pairwise_cons.1 hsorted
    cases rest with
    | nil =>
      obtain rfl := List.mem_singleton.1 hm
      obtain rfl := List.mem_singleton.1 hn
      exact absurd hlt (Nat.lt_irrefl _)
    | cons b more =>
      rcases List.mem_cons.1 hm with rfl | hmore
      · exact ⟨⟨m, b⟩, List.mem_cons_self, rfl⟩
      · have hn : n ∈ b :: more := by
          rcases List.mem_cons.1 hn with rfl | hn
          · exact absurd (hfirst m hmore) (Nat.not_lt_of_lt hlt)
          · exact hn
        obtain ⟨s, hs, hstart⟩ := ih hrest hmore hn
        exact ⟨s, List.mem_cons_of_mem _ hs, hstart⟩

/-! ## Ends of stretches -/

/-- Bounds are where a stretch of some layer ends. -/
theorem mem_bounds : n ∈ t.bounds ↔ ∃ key, (t.layer key).EndsAt n := by
  unfold bounds Layer.EndsAt
  simp only [List.mem_flatMap, List.mem_cons, List.not_mem_nil, or_false]
  exact ⟨fun ⟨key, _, hs⟩ => ⟨key, hs⟩, fun ⟨key, hs⟩ => ⟨key, key.mem_all, hs⟩⟩

/-- All cuts lie inside of the range. -/
theorem bounds_of_mem_cuts (hrange : r.start ≤ r.stop) (hn : n ∈ t.cuts r) :
    r.start ≤ n ∧ n ≤ r.stop := by
  rcases (mem_cuts hrange).1 hn with rfl | rfl | hn
  · exact ⟨Nat.le_refl _, hrange⟩
  · exact ⟨hrange, Nat.le_refl _⟩
  · exact ⟨Nat.le_of_lt (mem_inside.1 hn).2.1, Nat.le_of_lt (mem_inside.1 hn).2.2⟩

/-- **No stretch begins or ends inside of a run.** -/
theorem free_of_mem_between (hrange : r.start ≤ r.stop) (hs : s ∈ between (t.cuts r))
    (hn : n ∈ t.bounds) : n ≤ s.start ∨ s.stop ≤ n := by
  obtain ⟨hstart, hstop, -, hnone⟩ := of_mem_between (pairwise_cuts t r) hs
  have hafter := (bounds_of_mem_cuts hrange hstart).1
  have hbefore := (bounds_of_mem_cuts hrange hstop).2
  by_cases hin : r.start < n ∧ n < r.stop
  · exact hnone n ((mem_cuts hrange).2 (.inr (.inr (mem_inside.2 ⟨hn, hin⟩))))
  · omega

/-- **All bytes of a run have the values of its first one.** -/
theorem Ordered.valuesAt_eq_of_mem_between (h : t.Ordered) (hrange : r.start ≤ r.stop)
    (hs : s ∈ between (t.cuts r)) (hin : s.contains offset = true) :
    t.valuesAt offset = t.valuesAt s.start := by
  obtain ⟨hstart, hstop⟩ := Span.contains_iff.1 hin
  refine valuesAt_congr fun key => (h key).get?_eq_of_free hstart fun n hn => ?_
  rcases free_of_mem_between hrange hs (mem_bounds.2 ⟨key, hn⟩) with hbefore | hbehind
  · exact .inl hbefore
  · exact .inr (Nat.lt_of_lt_of_le hstop hbehind)

/-- An offset at which a range is cut is an end of a range between neighbouring cuts. -/
theorem exists_end_of_mem_cuts (hlt : r.start < r.stop) (hn : n ∈ t.cuts r) :
    ∃ s ∈ between (t.cuts r), s.start = n ∨ s.stop = n := by
  have hsorted := pairwise_cuts t r
  have hle := Nat.le_of_lt hlt
  rcases Nat.lt_or_ge n r.stop with hbefore | hend
  · have hlast : r.stop ∈ t.cuts r := (mem_cuts hle).2 (.inr (.inl rfl))
    obtain ⟨s, hs, hstart⟩ := exists_start_of_lt hsorted hn hlast hbefore
    exact ⟨s, hs, .inl hstart⟩
  · have hfirst : r.start ∈ t.cuts r := (mem_cuts hle).2 (.inl rfl)
    obtain ⟨s, hs, hstop⟩ := exists_stop_of_lt hsorted hfirst hn (by omega)
    exact ⟨s, hs, .inr hstop⟩

/-- **Neighbouring cuts are where stretches end**, apart from the ends of the range. -/
theorem exists_stop_iff (hrange : r.start ≤ r.stop) :
    (∃ s ∈ between (t.cuts r), s.stop = n ∧ n < r.stop) ↔
      r.start < n ∧ n < r.stop ∧ n ∈ t.bounds := by
  have hsorted := pairwise_cuts t r
  constructor
  · rintro ⟨s, hs, rfl, hbefore⟩
    obtain ⟨hfirst, hlast, hlt, -⟩ := of_mem_between hsorted hs
    have hafter : r.start < s.stop := Nat.lt_of_le_of_lt (bounds_of_mem_cuts hrange hfirst).1 hlt
    rcases (mem_cuts hrange).1 hlast with heq | heq | hin
    · omega
    · omega
    · exact ⟨hafter, hbefore, (mem_inside.1 hin).1⟩
  · rintro ⟨hafter, hbefore, hbound⟩
    have hfirst : r.start ∈ t.cuts r := (mem_cuts hrange).2 (.inl rfl)
    have hn : n ∈ t.cuts r :=
      (mem_cuts hrange).2 (.inr (.inr (mem_inside.2 ⟨hbound, hafter, hbefore⟩)))
    obtain ⟨s, hs, hstop⟩ := exists_stop_of_lt hsorted hfirst hn hafter
    exact ⟨s, hs, hstop, hbefore⟩

/-- An empty range is not split, and no other one is split into nothing. -/
theorem between_cuts_eq_nil_iff (hrange : r.start ≤ r.stop) :
    between (t.cuts r) = [] ↔ r.isEmpty = true := by
  constructor
  · intro hnil
    by_contra hne
    have hlt : r.start < r.stop := by simpa [Span.isEmpty] using hne
    have hfirst : r.start ∈ t.cuts r := (mem_cuts hrange).2 (.inl rfl)
    obtain ⟨s, hs, -⟩ := exists_end_of_mem_cuts hlt hfirst
    rw [hnil] at hs
    exact absurd hs List.not_mem_nil
  · intro hempty
    have hle : r.stop ≤ r.start := by simpa [Span.isEmpty] using hempty
    apply List.eq_nil_iff_forall_not_mem.2
    intro s hs
    obtain ⟨hfirst, hlast, hlt, -⟩ := of_mem_between (pairwise_cuts t r) hs
    have hafter := (bounds_of_mem_cuts hrange hfirst).1
    have hbefore := (bounds_of_mem_cuts hrange hlast).2
    omega

/-! ## Kinds of values -/

/-- Every layer of a text has values of its own kind only. -/
def HasKeys (t : StyledText) : Prop := ∀ key, (t.layer key).HasKey key

/-- Layers keep their keys if the one that is changed does. -/
theorem HasKeys.modifyLayer (h : t.HasKeys) {key : StyleKey} {f : Layer → Layer}
    (hf : ∀ l : Layer, l.HasKey key → (f l).HasKey key) : (t.modifyLayer key f).HasKeys := by
  intro other
  rw [layer_modifyLayer]
  split
  · rename_i heq
    subst heq
    exact hf _ (h other)
  · exact h other

/-- **Values are kept under their own kind** in all texts that can be written. -/
theorem Written.hasKeys (h : t.Written) : t.HasKeys := by
  induction h with
  | ofChars cs => exact fun key s hs => absurd hs List.not_mem_nil
  | @set t r v _ ih =>
    unfold StyledText.set
    dsimp only
    split
    · exact ih
    · exact ih.modifyLayer fun l hl => hl.put _
  | remove key r _ ih => exact ih.modifyLayer fun l hl => hl.cut _
  | @clear t r _ ih =>
    intro key
    rw [layer_clear]
    split
    · exact ih key
    · exact (ih key).cut _
  | append cs _ ih => exact ih

/-- A value that is found under a kind is of this kind. -/
theorem Written.key_of_get? (h : t.Written) {key : StyleKey} {v : StyleValue}
    (hv : t.get? key offset = some v) : v.key = key := by
  obtain ⟨s, hs, -, rfl⟩ := (h.ordered key).get?_eq_some_iff.1 hv
  exact h.hasKeys key s hs

/-- The values at an offset are those that are found there. -/
theorem Written.mem_valuesAt (h : t.Written) {v : StyleValue} :
    v ∈ t.valuesAt offset ↔ t.get? v.key offset = some v := by
  unfold valuesAt
  rw [List.mem_filterMap]
  constructor
  · rintro ⟨key, -, hv⟩
    rwa [h.key_of_get? hv]
  · exact fun hv => ⟨v.key, v.key.mem_all, hv⟩

/-- The values at an offset come in the order of their kinds. -/
theorem Written.keys_valuesAt (h : t.Written) (offset : Nat) :
    (t.valuesAt offset).map (·.key) =
      StyleKey.all.filter fun key => (t.get? key offset).isSome := by
  unfold valuesAt
  rw [List.map_filterMap, ← List.filterMap_eq_filter]
  refine List.filterMap_congr fun key _ => ?_
  cases hv : t.get? key offset with
  | none => simp [hv, Option.guard]
  | some v => simp [hv, h.key_of_get? hv, Option.guard]

/-! ## Runs -/

/-- A map that can be undone succeeds at every element of the list it was made of. -/
theorem of_mapM_eq_some {α β : Type} {f : α → Option β} {g : β → α} {xs : List α} {ys : List β}
    (hg : ∀ x y, f x = some y → g y = x) (h : xs.mapM f = some ys) :
    ys.map g = xs ∧ ∀ x ∈ xs, ∃ y, f x = some y := by
  induction xs generalizing ys with
  | nil =>
    obtain rfl : [] = ys := Option.some.inj h
    exact ⟨rfl, fun x hx => absurd hx List.not_mem_nil⟩
  | cons x xs ih =>
    rw [List.mapM_cons] at h
    obtain ⟨y, hy, h⟩ := Option.bind_eq_some_iff.1 h
    obtain ⟨rest, hrest, h⟩ := Option.bind_eq_some_iff.1 h
    obtain rfl : y :: rest = ys := Option.some.inj h
    obtain ⟨hmap, hall⟩ := ih hrest
    exact ⟨by rw [List.map_cons, hg x y hy, hmap], List.forall_mem_cons.2 ⟨⟨y, hy⟩, hall⟩⟩

/-- A run has the range it was asked for. -/
theorem range_of_run? {run : Run} (h : t.run? s = some run) : run.range = s := by
  obtain ⟨text, -, rfl⟩ := Option.map_eq_some_iff.1 h
  rfl

/-- The runs of a range are those between its cuts. -/
theorem ranges_of_runs? (h : t.runs? r = some runs) :
    runs.map (·.range) = between (t.cuts (t.clamp r)) :=
  (of_mapM_eq_some (fun _ _ => range_of_run?) h).1

/-- **A range has runs** if and only if it is cut between characters only. -/
theorem isSome_runs?_iff (hlt : (t.clamp r).start < (t.clamp r).stop) :
    (t.runs? r).isSome = true ↔ ∀ n ∈ t.cuts (t.clamp r), IsBoundary t.text n := by
  have hle := Nat.le_of_lt hlt
  constructor
  · intro h n hn
    obtain ⟨runs, hruns⟩ := Option.isSome_iff_exists.1 h
    obtain ⟨s, hs, hend⟩ := exists_end_of_mem_cuts hlt hn
    obtain ⟨run, hrun⟩ := (of_mapM_eq_some (fun _ _ => range_of_run?) hruns).2 s hs
    obtain ⟨text, htext, -⟩ := Option.map_eq_some_iff.1 hrun
    obtain ⟨hstart, hstop⟩ := Text.isBoundary_of_slice? htext
    rcases hend with rfl | rfl
    · exact hstart
    · exact hstop
  · intro h
    obtain ⟨hruns, -⟩ := runs?_eq (h _ ((mem_cuts hle).2 (.inl rfl)))
      (h _ ((mem_cuts hle).2 (.inr (.inl rfl))))
      fun n hn => h n ((mem_cuts hle).2 (.inr (.inr hn)))
    rw [hruns]
    rfl

/-- **Runs partition a range.** If the ends of a clamped range and the ends of all stretches inside
of it lie between characters, the range is split into runs that lead from its start to its end and
are not empty. Their texts are the parts of the text that they range over and make up that of the
range; their values are those found at each of their bytes, in the order of their kinds, each kind
once; and two of them meet exactly where a stretch ends inside of the range. -/
theorem runs_partition (h : t.Written) (hstart : IsBoundary t.text (t.clamp r).start)
    (hstop : IsBoundary t.text (t.clamp r).stop)
    (hends : ∀ key n, (t.layer key).EndsAt n →
      (t.clamp r).start < n → n < (t.clamp r).stop → IsBoundary t.text n) :
    ∃ runs, t.runs? r = some runs ∧
      (runs = [] ↔ (t.clamp r).isEmpty = true) ∧
      Leads t.text (t.clamp r).start (t.clamp r).stop (runs.map (·.range)) ∧
      slice? t.text (t.clamp r) = some (runs.flatMap (·.text)) ∧
      (∀ run ∈ runs, run.range.start < run.range.stop ∧
        slice? t.text run.range = some run.text ∧
        (run.values.map (·.key)).Sublist StyleKey.all ∧ (run.values.map (·.key)).Nodup ∧
        ∀ offset, run.range.contains offset = true →
          ∀ v, v ∈ run.values ↔ t.get? v.key offset = some v) ∧
      ∀ n, (∃ run ∈ runs, run.range.stop = n ∧ n < (t.clamp r).stop) ↔
        (t.clamp r).start < n ∧ n < (t.clamp r).stop ∧ ∃ key, (t.layer key).EndsAt n := by
  have hle := start_clamp_le t r
  obtain ⟨hruns, hleads, hparts, hall⟩ := runs?_eq hstart hstop fun n hn => by
    obtain ⟨hbound, hafter, hbefore⟩ := mem_inside.1 hn
    obtain ⟨key, hend⟩ := mem_bounds.1 hbound
    exact hends key n hend hafter hbefore
  have hranges : ((between (t.cuts (t.clamp r))).map fun s =>
      (⟨s, (slice? t.text s).getD [], t.valuesAt s.start⟩ : Run)).map (·.range) =
        between (t.cuts (t.clamp r)) := by
    rw [List.map_map]
    exact List.map_id _
  refine ⟨_, hruns, ?_, by rwa [hranges], by rwa [List.flatMap_map], ?_, fun n => ?_⟩
  · rw [List.map_eq_nil_iff]
    exact between_cuts_eq_nil_iff hle
  · intro run hrun
    obtain ⟨s, hs, rfl⟩ := List.mem_map.1 hrun
    obtain ⟨-, -, hlt, -⟩ := of_mem_between (pairwise_cuts t _) hs
    have hkeys := h.keys_valuesAt s.start
    refine ⟨hlt, hparts s hs, ?_, ?_, fun offset hin v => ?_⟩
    · rw [hkeys]
      exact List.filter_sublist
    · rw [hkeys]
      exact StyleKey.nodup_all.filter _
    · rw [← h.ordered.valuesAt_eq_of_mem_between hle hs hin]
      exact h.mem_valuesAt
  · rw [← mem_bounds, ← exists_stop_iff hle]
    simp only [List.mem_map, exists_exists_and_eq_and]

/-- A comment in red whose slashes are blue; bold was set in the middle of its last character, which
the range leaves out. -/
theorem runs_partition_comment :
    let t := (((ofString "// hé").set ⟨0, 9⟩ (.foreground ⟨255, 0, 0, 255⟩)).set ⟨0, 2⟩
      (.foreground ⟨0, 0, 255, 255⟩)).set ⟨5, 6⟩ .bold
    IsBoundary t.text 1 ∧ IsBoundary t.text 4 ∧ ¬ IsBoundary t.text 5 ∧
      ∃ runs, t.runs? ⟨1, 4⟩ = some runs ∧ slice? t.text ⟨1, 4⟩ = some (runs.flatMap (·.text)) ∧
        ∃ run ∈ runs, run.range.stop = 2 := by
  intro t
  have hwritten : t.Written := .set _ _ (.set _ _ (.set _ _ (.ofChars _)))
  have hclamp : t.clamp ⟨1, 4⟩ = ⟨1, 4⟩ := by decide +kernel
  have hstart : IsBoundary t.text 1 := by decide +kernel
  have hstop : IsBoundary t.text 4 := by decide +kernel
  have hbounds : ∀ n ∈ t.bounds, 1 < n → n < 4 → IsBoundary t.text n := by decide +kernel
  obtain ⟨runs, hruns, -, -, htext, -, hinner⟩ := runs_partition (r := ⟨1, 4⟩) hwritten
    (by rwa [hclamp]) (by rwa [hclamp]) fun key n hn hafter hbefore => by
      rw [hclamp] at hafter hbefore
      exact hbounds n (mem_bounds.2 ⟨key, hn⟩) hafter hbefore
  rw [hclamp] at htext hinner
  have hend : ∃ key, (t.layer key).EndsAt 2 := mem_bounds.1 (by decide +kernel)
  obtain ⟨run, hrun, hmeet, -⟩ := (hinner 2).2 ⟨by decide, by decide, hend⟩
  exact ⟨hstart, hstop, by decide +kernel, runs, hruns, htext, run, hrun, hmeet⟩

end StyledText

end ScopePaint
