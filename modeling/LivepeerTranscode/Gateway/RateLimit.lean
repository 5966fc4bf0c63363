import Mathlib

/-!
# The rate limiter

`createRateLimiter` of `auth/rateLimit.ts`: the times of the accepted checks of every key, pruned
by each check of the key and by a sweep over all keys. Times are in milliseconds.
-/

namespace LivepeerTranscode.Gateway.RateLimit
set_option autoImplicit false

/-- The map of the limiter. An absent key is read as an empty array. -/
abbrev Stamps : Type := String → List ℚ

inductive LimiterCall where
  | check (key : String) (now : ℚ)
  | sweep (now : ℚ)

def LimiterCall.now : LimiterCall → ℚ
  | .check _ now | .sweep now => now

section
variable (maxRequests : String → Nat) (windowSecs : String → ℚ)

/-- The entries of a key that a check still counts. -/
def fresh (map : Stamps) (key : String) (now : ℚ) : List ℚ :=
  (map key).filter fun t => now - windowSecs key * 1000 < t

def check (map : Stamps) (key : String) (now : ℚ) : Bool × Stamps :=
  let kept := fresh windowSecs map key now
  if maxRequests key ≤ kept.length then (false, Function.update map key kept)
  else (true, Function.update map key (kept ++ [now]))

def sweep (map : Stamps) (now : ℚ) : Stamps := fun key => (map key).filter fun t => now - 60000 < t

def step (map : Stamps) : LimiterCall → Stamps
  | .check key now => (check maxRequests windowSecs map key now).2
  | .sweep now => sweep map now

def after (calls : List LimiterCall) : Stamps := calls.foldl (step maxRequests windowSecs) fun _ => []

/-- What a check is answered after these calls. -/
def accepts (before : List LimiterCall) (key : String) (now : ℚ) : Bool :=
  (check maxRequests windowSecs (after maxRequests windowSecs before) key now).1

/-- The times of the accepted checks of a key. -/
def accepted (key : String) (before : List LimiterCall) : List LimiterCall → List ℚ
  | [] => []
  | .sweep now :: rest => accepted key (before ++ [.sweep now]) rest
  | .check other now :: rest =>
    (if other = key ∧ accepts maxRequests windowSecs before other now then [now] else []) ++
      accepted key (before ++ [.check other now]) rest

end

section
variable {maxRequests : String → Nat} {windowSecs : String → ℚ} {calls : List LimiterCall} {key : String}

theorem accepted_append (before first second : List LimiterCall) :
    accepted maxRequests windowSecs key before (first ++ second) =
      accepted maxRequests windowSecs key before first ++
        accepted maxRequests windowSecs key (before ++ first) second := by
  induction first generalizing before with
  | nil => simp [accepted]
  | cons call rest ih =>
    cases call with
    | sweep now => simp [accepted, ih]
    | check other now => simp [accepted, ih]

theorem after_concat (call : LimiterCall) :
    after maxRequests windowSecs (calls ++ [call]) =
      step maxRequests windowSecs (after maxRequests windowSecs calls) call := by
  simp [after]

theorem check_other {map : Stamps} {other : String} {now : ℚ} (hkey : other ≠ key) :
    (check maxRequests windowSecs map other now).2 key = map key := by
  simp only [check]
  split <;> exact Function.update_of_ne (Ne.symm hkey) _ _

theorem mem_accepted {before : List LimiterCall} {t : ℚ}
    (h : t ∈ accepted maxRequests windowSecs key before calls) : ∃ call ∈ calls, call.now = t := by
  induction calls generalizing before with
  | nil => cases h
  | cons call rest ih =>
    cases call with
    | sweep now =>
      obtain ⟨found, hfound, ht⟩ := ih h
      exact ⟨found, List.mem_cons_of_mem _ hfound, ht⟩
    | check other now =>
      rcases List.mem_append.mp h with h | h
      · split at h
        · exact ⟨_, List.mem_cons_self, (List.mem_singleton.mp h).symm⟩
        · cases h
      · obtain ⟨found, hfound, ht⟩ := ih h
        exact ⟨found, List.mem_cons_of_mem _ hfound, ht⟩

theorem filter_later {stamps : List ℚ} {early late : ℚ} (h : early ≤ late) :
    (stamps.filter fun t => early < t).filter (fun t => late < t) = stamps.filter fun t => late < t := by
  rw [List.filter_filter]
  refine List.filter_congr fun t _ => ?_
  by_cases ht : late < t
  · simp [ht, lt_of_le_of_lt h ht]
  · simp [ht]

/-- The limiter holds all accepted checks of a key that any later check counts. -/
theorem fresh_after (hwindow : ∀ key, windowSecs key ≤ 60)
    (hclock : (calls.map LimiterCall.now).Pairwise (· ≤ ·)) {now : ℚ} (hnow : ∀ call ∈ calls, call.now ≤ now) :
    fresh windowSecs (after maxRequests windowSecs calls) key now =
      (accepted maxRequests windowSecs key [] calls).filter fun t => now - windowSecs key * 1000 < t := by
  induction calls using List.reverseRecOn generalizing now with
  | nil => rfl
  | append_singleton before call ih =>
    rw [List.map_append, List.pairwise_append] at hclock
    have hlast : call.now ≤ now := hnow call (by simp)
    have hprior : ∀ earlier ∈ before, earlier.now ≤ call.now := fun earlier hearlier =>
      hclock.2.2 _ (List.mem_map_of_mem hearlier) _ (by simp)
    have hbefore := @ih hclock.1 now fun earlier hearlier => hnow earlier (by simp [hearlier])
    rw [after_concat, accepted_append, List.filter_append, List.nil_append, ← hbefore]
    cases call with
    | sweep swept =>
      simp only [LimiterCall.now] at hlast
      have hcut : swept - 60000 ≤ now - windowSecs key * 1000 := by linarith [hwindow key]
      simp [fresh, step, sweep, accepted, filter_later hcut]
    | check other checked =>
      simp only [LimiterCall.now] at hlast hprior
      by_cases hkey : other = key
      · subst hkey
        have hcut : checked - windowSecs other * 1000 ≤ now - windowSecs other * 1000 := by linarith
        have hkept : (fresh windowSecs (after maxRequests windowSecs before) other checked).filter
            (fun t => now - windowSecs other * 1000 < t) =
              fresh windowSecs (after maxRequests windowSecs before) other now := filter_later hcut
        by_cases hfull : maxRequests other ≤
            (fresh windowSecs (after maxRequests windowSecs before) other checked).length
        · simp only [step, check, if_pos hfull, accepted, accepts]
          simp only [fresh, Function.update_self]
          simpa [fresh] using hkept
        · simp only [step, check, if_neg hfull, accepted, accepts]
          simp only [fresh, Function.update_self, List.filter_append]
          simpa [fresh] using hkept
      · simp [fresh, step, check_other hkey, accepted, hkey]

/-- A set of times that lie within one window of each other. -/
theorem accepted_within (hwindow : ∀ key, windowSecs key ≤ 60)
    (hclock : (calls.map LimiterCall.now).Pairwise (· ≤ ·)) {inside : ℚ → Bool}
    (hspan : ∀ t u, inside t → inside u → u - windowSecs key * 1000 < t) :
    ((accepted maxRequests windowSecs key [] calls).filter inside).length ≤ maxRequests key := by
  induction calls using List.reverseRecOn with
  | nil => exact Nat.zero_le _
  | append_singleton before call ih =>
    rw [List.map_append, List.pairwise_append] at hclock
    have hbefore := ih hclock.1
    rw [accepted_append, List.filter_append, List.nil_append]
    cases call with
    | sweep swept => simpa [accepted] using hbefore
    | check other now =>
      by_cases hcounts : (other = key ∧ accepts maxRequests windowSecs before other now) ∧ inside now
      · obtain ⟨⟨rfl, haccepts⟩, hinside⟩ := hcounts
        have hprior : ∀ earlier ∈ before, earlier.now ≤ now := fun earlier hearlier =>
          hclock.2.2 _ (List.mem_map_of_mem hearlier) _ (by simp [LimiterCall.now])
        have hroom : (fresh windowSecs (after maxRequests windowSecs before) other now).length <
            maxRequests other := by
          by_contra hfull
          simp [accepts, check, not_lt.mp hfull] at haccepts
        rw [fresh_after hwindow hclock.1 hprior] at hroom
        have hcounted : ((accepted maxRequests windowSecs other [] before).filter inside).length ≤
            ((accepted maxRequests windowSecs other [] before).filter
              fun t => now - windowSecs other * 1000 < t).length := by
          refine (List.monotone_filter_right _ fun t ht => ?_).length_le
          exact decide_eq_true (hspan t now ht hinside)
        simp only [accepted, haccepts, and_self, if_true, List.append_nil, List.filter_cons, hinside,
          List.filter_nil, List.length_append, List.length_singleton]
        omega
      · have hnone : (accepted maxRequests windowSecs key before [.check other now]).filter inside = [] := by
          simp only [accepted, List.append_nil]
          split
          · rename_i haccepted
            simpa using fun hinside => hcounts ⟨haccepted, hinside⟩
          · rfl
        rw [hnone, List.append_nil]
        exact hbefore

end

/-- At most the limit of a key is accepted within any half-open interval as long as its window, and
a check is refused only when the limit was accepted in the window before it. -/
theorem rate_limit_sliding (maxRequests : String → Nat) (windowSecs : String → ℚ)
    (hwindow : ∀ key, windowSecs key ≤ 60) (calls : List LimiterCall)
    (hclock : (calls.map LimiterCall.now).Pairwise (· ≤ ·)) (key : String) :
    (∀ start : ℚ,
      ((accepted maxRequests windowSecs key [] calls).filter fun t =>
        start < t ∧ t ≤ start + windowSecs key * 1000).length ≤ maxRequests key ∧
      ((accepted maxRequests windowSecs key [] calls).filter fun t =>
        start ≤ t ∧ t < start + windowSecs key * 1000).length ≤ maxRequests key) ∧
    ∀ before now rest, calls = before ++ .check key now :: rest →
      accepts maxRequests windowSecs before key now = false →
      maxRequests key ≤ ((accepted maxRequests windowSecs key [] before).filter fun t =>
        now - windowSecs key * 1000 < t ∧ t ≤ now).length := by
  constructor
  · intro start
    constructor
    · refine accepted_within hwindow hclock fun t u ht hu => ?_
      simp only [decide_eq_true_eq] at ht hu
      linarith
    · refine accepted_within hwindow hclock fun t u ht hu => ?_
      simp only [decide_eq_true_eq] at ht hu
      linarith
  · rintro before now rest rfl hrefused
    rw [List.map_append, List.pairwise_append] at hclock
    have hprior : ∀ earlier ∈ before, earlier.now ≤ now := fun earlier hearlier =>
      hclock.2.2 _ (List.mem_map_of_mem hearlier) _ (by simp [LimiterCall.now])
    have hfull : maxRequests key ≤ (fresh windowSecs (after maxRequests windowSecs before) key now).length := by
      by_contra hroom
      simp [accepts, check, hroom] at hrefused
    rw [fresh_after hwindow hclock.1 hprior] at hfull
    refine hfull.trans_eq (congrArg List.length (List.filter_congr fun t ht => ?_))
    obtain ⟨call, hcall, rfl⟩ := mem_accepted ht
    simp [hprior call hcall]

/-- Two checks within two seconds are accepted, the third is not; a sweep in between changes
nothing. -/
theorem rate_limit_sliding_two :
    (accepted (fun _ => 2) (fun _ => 2) "a" [] [.check "a" 0, .sweep 500, .check "a" 1000, .check "a" 1999]) =
      [0, 1000] ∧
    ((accepted (fun _ => 2) (fun _ => 2) "a" []
      [.check "a" 0, .sweep 500, .check "a" 1000, .check "a" 1999]).filter fun t =>
        (-1 : ℚ) < t ∧ t ≤ -1 + 2 * 1000).length ≤ 2 :=
  ⟨by decide +kernel, ((rate_limit_sliding (fun _ => 2) (fun _ => 2) (by intro; norm_num)
    [.check "a" 0, .sweep 500, .check "a" 1000, .check "a" 1999] (by decide +kernel) "a").1 (-1)).1⟩

end LivepeerTranscode.Gateway.RateLimit
