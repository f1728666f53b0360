import Zrotext.Abuse.Access
import Zrotext.Foundation.FixedWindow

/-!
# Accounting of charges

What one call of the charging function does to the counters, and how many
charges of a key a schedule of calls can make.
-/

namespace Zrotext.Abuse

open Foundation Delivery FixedWindow List

variable {δ : Type} [DecidableEq δ]

/-- What a key counts. -/
inductive Role
  | route | subject
deriving DecidableEq

/-- Each key has one budget and one role. -/
structure Discipline (δ : Type) where
  (maximum window : Key δ → Int)
  role : Key δ → Role
  positive : ∀ key, 1 ≤ maximum key

namespace Call

/-- The keys that a call charges. -/
def keys (call : Call δ) : List (Key δ) :=
  call.globalKey :: call.subjectHash.toList.map fun hash => (call.scope, hash)

/-- A call uses its keys with their budgets and in their roles. -/
structure Follows (discipline : Discipline δ) (call : Call δ) : Prop where
  globalBudget : call.globalBudget =
    (discipline.maximum call.globalKey, discipline.window call.globalKey)
  globalRole : discipline.role call.globalKey = .route
  subjectBudget : ∀ hash ∈ call.subjectHash, call.subjectBudget =
    (discipline.maximum (call.scope, hash), discipline.window (call.scope, hash))
  subjectRole : ∀ hash ∈ call.subjectHash, discipline.role (call.scope, hash) = .subject

end Call

section Step

variable {call : Call δ}

omit [DecidableEq δ] in
theorem Call.Follows.ne_globalKey {hash : δ} (follows : call.Follows discipline)
    (isSubject : hash ∈ call.subjectHash) : (call.scope, hash) ≠ call.globalKey := by
  intro same
  have role := follows.subjectRole hash isSubject
  rw [same, follows.globalRole] at role
  cases role

/-- An admitted call charges each of its keys once, and each had room. -/
theorem lookup_of_admitted (follows : call.Follows discipline)
    (admitted : (authAbuseConsume call now counters).1 = .ok true) {key : Key δ}
    (charges : key ∈ call.keys) : (authAbuseConsume call now counters).2.lookup key =
        some (charged key (discipline.window key) now (counters.lookup key)) ∧
      (counters.lookup key).all (Counter.hasRoom
        (discipline.maximum key, discipline.window key) now) := by
  obtain ⟨middle, isMiddle, isAfter⟩ := authAbuseConsume_of_true admitted
  have globalWindow : call.globalSeconds = discipline.window call.globalKey :=
    congrArg Prod.snd follows.globalBudget
  cases isSubject : call.subjectHash with
  | none =>
    rw [Call.chargeSubject, isSubject] at isMiddle
    cases isMiddle
    rw [Call.keys, isSubject] at charges
    obtain rfl := mem_singleton.mp charges
    refine ⟨?_, ?_⟩
    · rw [lookup_upsert isAfter, if_pos rfl, globalWindow]
    · rw [← follows.globalBudget]
      exact (upsert_eq_some_iff.mp isAfter).2.1
  | some hash =>
    have subjectWindow : call.subjectSeconds = discipline.window (call.scope, hash) :=
      congrArg Prod.snd (follows.subjectBudget hash isSubject)
    have different := follows.ne_globalKey isSubject
    rw [Call.chargeSubject, isSubject] at isMiddle
    have sameGlobal : middle.lookup call.globalKey = counters.lookup call.globalKey := by
      rw [lookup_upsert isMiddle, if_neg different.symm]
    rw [Call.keys, isSubject] at charges
    rcases mem_cons.mp charges with rfl | isKey
    · refine ⟨?_, ?_⟩
      · rw [lookup_upsert isAfter, if_pos rfl, globalWindow, sameGlobal]
      · rw [← follows.globalBudget, ← sameGlobal]
        exact (upsert_eq_some_iff.mp isAfter).2.1
    · obtain rfl := mem_singleton.mp isKey
      refine ⟨?_, ?_⟩
      · rw [lookup_upsert isAfter, if_neg different, lookup_upsert isMiddle,
          if_pos rfl, subjectWindow]
      · rw [← follows.subjectBudget hash isSubject]
        exact (upsert_eq_some_iff.mp isMiddle).2.1

theorem lookup_of_notMem_keys (uncharged : key ∉ call.keys) :
    (authAbuseConsume call now counters).2.lookup key = counters.lookup key := by
  rw [Call.keys, mem_cons, not_or, mem_map] at uncharged
  refine lookup_authAbuseConsume uncharged.1 ?_
  intro hash isSubject isKey
  exact uncharged.2 ⟨hash, Option.mem_toList.mpr isSubject, isKey.symm⟩

end Step

/-- The counters after a schedule of calls. -/
def runCalls (schedule : List (Time × Call δ)) (counters : Counters δ) : Counters δ :=
  schedule.foldl (fun counters entry =>
    (authAbuseConsume entry.2 entry.1 counters).2) counters

/-- The charges of a key by one call.  A charge starts a window if there is no
counter or its window is over. -/
def chargesOf (key : Key δ) (window : Int) (now : Time) (call : Call δ)
    (counters : Counters δ) : List (Charge Time) :=
  if (authAbuseConsume call now counters).1 = .ok true ∧ key ∈ call.keys
  then [⟨now, (counters.lookup key).all (Counter.isOver window now)⟩]
  else []

/-- The charges of a key by a schedule of calls. -/
def charges (key : Key δ) (window : Int) : List (Time × Call δ) → Counters δ → List (Charge Time)
  | [], _ => []
  | (now, call) :: rest, counters =>
    chargesOf key window now call counters ++
      charges key window rest (authAbuseConsume call now counters).2

/-- A counter without its key. -/
def windowOf (counter : Counter δ) : FixedWindow.Counter Time :=
  ⟨counter.windowStartedAt, counter.attempts⟩

/-- The charges of a key and the counter that they lead to. -/
abbrev Accounts (discipline : Discipline δ) (key : Key δ) (history : List (Charge Time))
    (counters : Counters δ) : Prop :=
  Charged (discipline.maximum key) (seconds (discipline.window key)) history
    ((counters.lookup key).map windowOf)

section Schedules

variable {key : Key δ}

/-- A call charges a key as its window allows. -/
theorem charged_step {call : Call δ} (follows : call.Follows discipline)
    (past : ∀ charge ∈ history, charge.time ≤ now)
    (before : Accounts discipline key history counters) :
    Accounts discipline key
      (history ++ chargesOf key (discipline.window key) now call counters)
      (authAbuseConsume call now counters).2 := by
  unfold chargesOf Accounts at *
  split_ifs with charges
  · obtain ⟨isAfter, room⟩ := lookup_of_admitted follows charges.1 charges.2
    rw [isAfter]
    cases found : counters.lookup key with
    | none =>
      rw [found] at before
      exact .start before past (by rintro _ ⟨⟩)
    | some counter =>
      rw [found] at before room
      simp only [Option.all_some, Option.map_some] at room ⊢
      cases ended : counter.isOver (discipline.window key) now with
      | true =>
        change Charged _ _ _ (some (windowOf (counter.renewed (discipline.window key) now)))
        rw [Counter.renewed_of_isOver ended]
        refine .start before past fun current isCurrent => ?_
        cases isCurrent
        exact of_decide_eq_true ended
      | false =>
        have isCounted : windowOf (counter.renewed (discipline.window key) now) =
            ⟨counter.windowStartedAt, counter.attempts + 1⟩ := by
          simp [windowOf, Counter.renewed, ended]
        change Charged _ _ _ (some (windowOf (counter.renewed (discipline.window key) now)))
        rw [isCounted]
        simp only [Counter.hasRoom, ended, Bool.false_or, decide_eq_true_eq] at room
        exact .count before past room
  · rw [append_nil]
    by_cases admitted : (authAbuseConsume call now counters).1 = .ok true
    · rw [lookup_of_notMem_keys fun isKey => charges ⟨admitted, isKey⟩]
      exact before
    · rw [authAbuseConsume_of_not_true admitted]
      exact before

variable {schedule : List (Time × Call δ)} {discipline : Discipline δ} {counters : Counters δ}
  (follows : ∀ entry ∈ schedule, entry.2.Follows discipline)
  (forward : (schedule.map Prod.fst).Pairwise (· ≤ ·))

include follows forward

theorem charged_runCalls (past : ∀ entry ∈ schedule, ∀ charge ∈ history, charge.time ≤ entry.1)
    (before : Accounts discipline key history counters) :
    Accounts discipline key (history ++ charges key (discipline.window key) schedule counters)
      (runCalls schedule counters) := by
  induction schedule generalizing counters history with
  | nil => simpa [charges, runCalls] using before
  | cons entry rest ih =>
    obtain ⟨now, call⟩ := entry
    obtain ⟨now_le, later⟩ := pairwise_cons.mp forward
    have after := charged_step (follows _ mem_cons_self) (past _ mem_cons_self) before
    have reached := ih (fun entry listed => follows entry (mem_cons_of_mem _ listed)) later ?_ after
    · simpa [charges, runCalls] using reached
    · intro entry listed charge known
      rcases mem_append.mp known with old | new
      · exact past entry (mem_cons_of_mem _ listed) charge old
      · unfold chargesOf at new
        split_ifs at new
        · rw [mem_singleton.mp new]
          exact now_le entry.1 (mem_map_of_mem listed)
        · cases new

/-- A schedule charges every key as its window allows. -/
theorem charged_schedule (key : Key δ) :
    Accounts discipline key (charges key (discipline.window key) schedule .empty)
      (runCalls schedule .empty) :=
  charged_runCalls follows forward (fun _ _ => forall_mem_nil _) .unused

end Schedules

/-- Refused calls change nothing, admitted calls charge each of their keys
once, and the charges of a key are bounded in every window and in every
interval as long as a window. -/
theorem abuse_budget_accounting (discipline : Discipline δ) (schedule : List (Time × Call δ))
    (forward : (schedule.map Prod.fst).Pairwise (· ≤ ·))
    (follows : ∀ entry ∈ schedule, entry.2.Follows discipline) :
    (∀ before now call later, schedule = before ++ (now, call) :: later →
      let counters := runCalls before .empty
      let outcome := authAbuseConsume call now counters
      (outcome.1 = .ok false → outcome.2 = counters) ∧
        (outcome.1 = .ok true → ∀ key, outcome.2.lookup key =
          if key ∈ call.keys then
            some (charged key (discipline.window key) now (counters.lookup key))
          else counters.lookup key)) ∧
      ∀ key,
        let made := charges key (discipline.window key) schedule .empty
        (∀ since, ((made.filter (inside (seconds (discipline.window key)) since)).length : Int) ≤
            2 * discipline.maximum key) ∧
          ∀ before block later, made = before ++ (block ++ later) →
            (∀ charge ∈ block.tail, charge.starts = false) →
            (block.length : Int) ≤ discipline.maximum key := by
  refine ⟨?_, ?_⟩
  · rintro before now call later rfl
    refine ⟨fun refused => ?_, fun admitted key => ?_⟩
    · exact authAbuseConsume_of_not_true (by rw [refused]; simp)
    · split_ifs with isKey
      · exact (lookup_of_admitted (follows (now, call) (by simp)) admitted isKey).1
      · exact lookup_of_notMem_keys isKey
  · intro key
    have charged := charged_schedule follows forward key
    refine ⟨charged.length_inside_le (discipline.positive key), ?_⟩
    intro before block later isMade within
    rw [Accounts, isMade] at charged
    exact charged.length_le_maximum (discipline.positive key) within

omit [DecidableEq δ] in
theorem charged_attempts_le {current : Option (Counter δ)} {maximum : Int}
    (room : current.all (Counter.hasRoom (maximum, window) now)) (small : maximum ≤ maxInteger) :
    (charged key window now current).attempts ≤ maxInteger := by
  have one : 1 ≤ maxInteger := by decide
  cases current with
  | none => exact one
  | some counter =>
    simp only [Option.all_some, Counter.hasRoom, Bool.or_eq_true, decide_eq_true_eq] at room
    simp only [charged, Counter.renewed]
    split_ifs with ended
    · exact one
    · rcases room with isOver | fits
      · exact absurd isOver ended
      · omega

/-- A call is admitted if all its keys have room. -/
theorem admitted_of_room {call : Call δ} (follows : call.Follows discipline)
    (valid : validScope call.scope) (small : ∀ key ∈ call.keys, discipline.maximum key ≤ maxInteger)
    (room : ∀ key ∈ call.keys, (counters.lookup key).all
      (Counter.hasRoom (discipline.maximum key, discipline.window key) now)) :
    (authAbuseConsume call now counters).1 = .ok true := by
  have upserts : ∀ key ∈ call.keys, ∀ budget : Budget, ∀ table : Counters δ, key.1 = call.scope →
      budget = (discipline.maximum key, discipline.window key) →
      table.lookup key = counters.lookup key →
      ∃ after, upsert (Counter.hasRoom budget now) key budget.2 now table = .ok (some after) := by
    rintro key listed _ table isScope rfl same
    exact ⟨_, upsert_eq_some_iff.mpr ⟨isScope ▸ valid, same ▸ room key listed,
      charged_attempts_le (same ▸ room key listed) (small key listed), rfl⟩⟩
  have subject : ∃ middle, call.chargeSubject now counters = .ok (some middle) ∧
      middle.lookup call.globalKey = counters.lookup call.globalKey := by
    unfold Call.chargeSubject
    cases isSubject : call.subjectHash with
    | none => exact ⟨counters, rfl, rfl⟩
    | some hash =>
      obtain ⟨middle, isMiddle⟩ := upserts (call.scope, hash) (by simp [Call.keys, isSubject])
        call.subjectBudget counters rfl (follows.subjectBudget hash isSubject) rfl
      refine ⟨middle, isMiddle, ?_⟩
      rw [lookup_upsert isMiddle, if_neg (follows.ne_globalKey isSubject).symm]
  obtain ⟨middle, isMiddle, same⟩ := subject
  obtain ⟨after, isAfter⟩ := upserts call.globalKey mem_cons_self call.globalBudget middle rfl
    follows.globalBudget same
  have globalRoom := room call.globalKey mem_cons_self
  rw [← follows.globalBudget] at globalRoom
  have isGlobal : call.chargeGlobal now middle = .ok (some after) := isAfter
  simp [authAbuseConsume, globalRoom, isMiddle, isGlobal]

/-- After every schedule, a call that is refused has a key that was charged to
its maximum within the last window. -/
theorem refused_only_when_spent (discipline : Discipline δ) (schedule : List (Time × Call δ))
    (forward : (schedule.map Prod.fst).Pairwise (· ≤ ·))
    (follows : ∀ entry ∈ schedule, entry.2.Follows discipline)
    (now : Time) (call : Call δ) (callFollows : call.Follows discipline)
    (valid : validScope call.scope) (small : ∀ key ∈ call.keys, discipline.maximum key ≤ maxInteger)
    (refused : (authAbuseConsume call now (runCalls schedule .empty)).1 ≠ .ok true) :
    ∃ key ∈ call.keys, discipline.maximum key ≤
      ((charges key (discipline.window key) schedule .empty).filter fun charge =>
        decide (now - seconds (discipline.window key) < charge.time)).length := by
  by_contra! unspent
  refine refused (admitted_of_room callFollows valid small fun key listed => ?_)
  have charged := charged_schedule follows forward key
  cases found : (runCalls schedule .empty).lookup key with
  | none => rfl
  | some counter =>
    rw [Accounts, found] at charged
    simp only [Option.all_some, Counter.hasRoom, Bool.or_eq_true, decide_eq_true_eq,
      Counter.isOver]
    by_contra! full
    refine absurd (full.2.trans (charged.attempts_le_length.trans (Int.ofNat_le.mpr
      (Sublist.length_le (monotone_filter_right _ ?_))))) (unspent key listed).not_ge
    exact fun charge since => decide_eq_true (full.1.trans_le (of_decide_eq_true since))

/-- Two charges a minute on a route, one for each subject. -/
def minuteDiscipline : Discipline Nat where
  maximum key := if key.2 = 0 then 2 else 1
  window _ := 60
  role key := if key.2 = 0 then .route else .subject
  positive key := by split_ifs <;> decide

/-- The call of a subject on the route. -/
def minuteCall (subject : Nat) : Call Nat := ⟨"route".toList, 0, some (subject + 1), 2, 60, 1, 60⟩

/-- Calls of three subjects, at the start of a minute and at its end. -/
def minuteSchedule : List (Time × Call Nat) :=
  [(seconds 0, minuteCall 0), (seconds 59, minuteCall 1),
    (seconds 59, minuteCall 2), (seconds 60, minuteCall 1),
    (seconds 60, minuteCall 2)]

theorem minuteCall_follows (subject : Nat) : (minuteCall subject).Follows minuteDiscipline :=
  ⟨rfl, rfl, fun _ isHash => by cases isHash; rfl, fun _ isHash => by cases isHash; rfl⟩

/-- The route is charged three times in 60 seconds, and no interval of a minute
has more than four charges. -/
theorem abuse_budget_accounting_minute :
    (∀ since, (((charges ("route".toList, 0) 60 minuteSchedule .empty).filter
        (inside (seconds 60) since)).length : Int) ≤ 2 * 2) ∧
      (charges ("route".toList, 0) 60 minuteSchedule .empty).map Charge.time =
        [seconds 0, seconds 59, seconds 60] := by
  exact ⟨((abuse_budget_accounting minuteDiscipline minuteSchedule (by decide)
    (by simp [minuteSchedule, minuteCall_follows])).2 ("route".toList, 0)).1, by decide +kernel⟩

/-- The call of a third subject is refused, as a key of it is spent. -/
theorem refused_only_when_spent_minute : ∃ key ∈ (minuteCall 2).keys,
    minuteDiscipline.maximum key ≤ ((charges key 60 minuteSchedule .empty).filter fun charge =>
      decide (seconds 61 - seconds 60 < charge.time)).length := by
  exact refused_only_when_spent minuteDiscipline minuteSchedule (by decide)
    (by simp [minuteSchedule, minuteCall_follows]) (seconds 61) (minuteCall 2)
    (minuteCall_follows 2) (by decide) (by decide) (by decide +kernel)

end Zrotext.Abuse
