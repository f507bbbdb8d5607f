/-
**One report for each hang.**

The looks at the liveness token fall into episodes: one begins with a look that finds another token than
the look before, or with the first look of all (`Episode`). A look is due to be reported if it is the first
of its episode that comes as late as the threshold after the beginning (`Due`).

* `observe_knows`: the three facts that a detector remembers are the beginning of the present episode and
  whether a look of it was due already;
* `live_follows`: a watcher calls its hook after each look that its detector reports and at no other
  time, until it sees that it was told to stop; then it does nothing any more;
* `owed_within_two`, `looks_within_five`, `gaveUp_of_stop`: it does not stand still either. It makes a call that it
  owes within two steps; however its calls end, its next look is at most five steps away; and once it was told to
  stop, its end is at most three;
* `reported_once_each`: all of this together, with what follows for tokens that stay and tokens that change.
-/

import CrashReporter.Hang.Watch
import Mathlib.Data.List.Basic
import Mathlib.Tactic.Common

namespace CrashReporter.Hang

/-! ## Part 1 — the detector -/

/-- A look that comes as late as the threshold after another one. A time before that counts as none. -/
def Sight.Overdue (threshold : Nat) (change look : Sight) : Prop :=
  threshold ≤ (look.time - change.time).toNat

instance (threshold : Nat) (change look : Sight) : Decidable (Sight.Overdue threshold change look) :=
  inferInstanceAs (Decidable (_ ≤ _))

/-- The latest look that found the token changed, or the first look of all, and the looks after it, which
found the same token. -/
structure Episode (looks : List Sight) (change : Sight) (since : List Sight) : Prop where
  begun : ∃ earlier, looks = earlier ++ change :: since ∧
    ∀ last ∈ earlier.getLast?, last.token ≠ change.token
  steady : ∀ look ∈ since, look.token = change.token

/-- The last of the looks comes as late as the threshold after the beginning of its episode, and is the first
one to do so. -/
def Due (threshold : Nat) (looks : List Sight) : Prop :=
  ∃ change between now, Episode looks change (between ++ [now]) ∧
    Sight.Overdue threshold change now ∧ ∀ look ∈ between, ¬ Sight.Overdue threshold change look

namespace Episode

variable {looks since : List Sight} {change sight : Sight} {threshold : Nat}

theorem token_mem (episode : Episode looks change since) {look : Sight}
    (member : look ∈ change :: since) : look.token = change.token := by
  rcases List.mem_cons.mp member with rfl | member
  · rfl
  · exact episode.steady look member

theorem token_last (episode : Episode looks change since) {last : Sight}
    (ends : last ∈ looks.getLast?) : last.token = change.token := by
  obtain ⟨earlier, rfl, _⟩ := episode.begun
  rw [List.getLast?_append_of_ne_nil _ (List.cons_ne_nil _ _)] at ends
  exact episode.token_mem (List.mem_of_getLast? ends)

/-- An episode goes on with a look that finds the same token. -/
theorem extend (episode : Episode looks change since) (same : sight.token = change.token) :
    Episode (looks ++ [sight]) change (since ++ [sight]) where
  begun := by
    obtain ⟨earlier, rfl, new⟩ := episode.begun
    exact ⟨earlier, by simp, new⟩
  steady := by
    intro look member
    rcases List.mem_append.mp member with member | member
    · exact episode.steady look member
    · rw [List.mem_singleton.mp member]
      exact same

/-- An episode begins with a look that finds another token. -/
theorem renew (new : ∀ last ∈ looks.getLast?, last.token ≠ sight.token) :
    Episode (looks ++ [sight]) sight [] where
  begun := ⟨looks, rfl, new⟩
  steady := by simp

/-- No other episode begins among the looks of one. -/
theorem not_within {between : List Sight} {other : Sight} {rest : List Sight}
    (episode : Episode looks change (between ++ other :: rest)) :
    ¬ ∀ last ∈ (change :: between).getLast?, last.token ≠ other.token := by
  intro new
  let last := (change :: between).getLast (List.cons_ne_nil _ _)
  have before : last ∈ change :: (between ++ other :: rest) := by
    rw [← List.cons_append]
    exact List.mem_append_left _ (List.getLast_mem _)
  have after : other ∈ change :: (between ++ other :: rest) := by simp
  have same : last.token = other.token :=
    (episode.token_mem before).trans (episode.token_mem after).symm
  exact new last (List.getLast?_eq_some_getLast _) same

/-- **Looks end in one episode only.** -/
theorem unique {other : Sight} {others : List Sight} (episode : Episode looks change since)
    (second : Episode looks other others) : change = other ∧ since = others := by
  obtain ⟨earlier, split, new⟩ := episode.begun
  obtain ⟨before, splitOther, newOther⟩ := second.begun
  rcases List.append_eq_append_iff.mp (split.symm.trans splitOther) with
    ⟨between, rfl, tail⟩ | ⟨between, rfl, tail⟩
  · cases between with
    | nil => exact List.cons.inj tail
    | cons first between =>
      obtain ⟨rfl, rfl⟩ := List.cons.inj tail
      rw [List.getLast?_append_of_ne_nil _ (List.cons_ne_nil _ _)] at newOther
      exact absurd newOther episode.not_within
  · cases between with
    | nil =>
      obtain ⟨same, rest⟩ := List.cons.inj tail
      exact ⟨same.symm, rest.symm⟩
    | cons first between =>
      obtain ⟨rfl, rfl⟩ := List.cons.inj tail
      rw [List.getLast?_append_of_ne_nil _ (List.cons_ne_nil _ _)] at new
      exact absurd new second.not_within

/-- Whether the last look is due is a matter of its episode. -/
theorem due_iff {between : List Sight} (episode : Episode looks change (between ++ [sight])) :
    Due threshold looks ↔ Sight.Overdue threshold change sight ∧
      ∀ look ∈ between, ¬ Sight.Overdue threshold change look := by
  constructor
  · rintro ⟨_, _, _, other, late, early⟩
    obtain ⟨rfl, same⟩ := episode.unique other
    obtain ⟨rfl, ⟨⟩⟩ := List.append_inj' same rfl
    exact ⟨late, early⟩
  · rintro ⟨late, early⟩
    exact ⟨change, between, sight, episode, late, early⟩

/-- A look that begins an episode is not due. -/
theorem not_due (episode : Episode looks change []) : ¬ Due threshold looks := by
  rintro ⟨_, between, now, other, _, _⟩
  have none := (episode.unique other).2
  exact List.append_ne_nil_of_right_ne_nil between (List.cons_ne_nil now []) none.symm

end Episode

namespace Detector

variable {detector : Detector} {sight : Sight} {looks : List Sight} {threshold : Nat}

/-- A detector remembers the beginning of the present episode and whether a look of it was due. -/
structure Knows (threshold : Nat) (looks : List Sight) (detector : Detector) (change : Sight)
    (since : List Sight) : Prop where
  episode : Episode looks change since
  threshold_eq : detector.threshold = threshold
  token_eq : detector.token = change.token
  since_eq : detector.since = change.time
  reported_iff : detector.reported = true ↔ ∃ look ∈ since, Sight.Overdue threshold change look

theorem start_knows (threshold : Nat) (new : ∀ last ∈ looks.getLast?, last.token ≠ sight.token) :
    Knows threshold (looks ++ [sight]) (start threshold sight) sight [] where
  episode := .renew new
  threshold_eq := rfl
  token_eq := rfl
  since_eq := rfl
  reported_iff := by simp [start]

/-- A look that finds another token starts the detector anew, whichever token that is. -/
theorem observe_of_ne (changed : sight.token ≠ detector.token) :
    detector.observe sight = (false, start detector.threshold sight) := by
  unfold observe
  rw [if_pos changed]
  rfl

theorem observe_of_reported (same : sight.token = detector.token)
    (reported : detector.reported = true) : detector.observe sight = (false, detector) := by
  unfold observe
  rw [if_neg (not_not_intro same), if_pos reported]

theorem observe_of_late (same : sight.token = detector.token)
    (unreported : detector.reported = false)
    (late : detector.threshold ≤ (sight.time - detector.since).toNat) :
    detector.observe sight = (true, { detector with reported := true }) := by
  unfold observe
  rw [if_neg (not_not_intro same), if_neg (by simp [unreported]), if_pos late]

theorem observe_of_early (same : sight.token = detector.token)
    (unreported : detector.reported = false)
    (early : ¬ detector.threshold ≤ (sight.time - detector.since).toNat) :
    detector.observe sight = (false, detector) := by
  unfold observe
  rw [if_neg (not_not_intro same), if_neg (by simp [unreported]), if_neg early]

/-- **A look is reported exactly if it is due**, and what the detector remembers stays right. -/
theorem observe_knows {change : Sight} {since : List Sight}
    (knows : detector.Knows threshold looks change since) :
    ((detector.observe sight).1 = true ↔ Due threshold (looks ++ [sight])) ∧
      ∃ change since, (detector.observe sight).2.Knows threshold (looks ++ [sight]) change since := by
  by_cases same : sight.token = detector.token
  · have episode := knows.episode.extend (same.trans knows.token_eq)
    have late_iff : detector.threshold ≤ (sight.time - detector.since).toNat ↔
        Sight.Overdue threshold change sight := by
      rw [knows.threshold_eq, knows.since_eq]
      rfl
    rw [episode.due_iff]
    cases reported : detector.reported with
    | true =>
      obtain ⟨look, member, late⟩ := knows.reported_iff.mp reported
      rw [observe_of_reported same reported]
      refine ⟨by simpa using fun _ => ⟨look, member, late⟩, change, since ++ [sight], episode,
        knows.threshold_eq, knows.token_eq, knows.since_eq, ?_⟩
      exact iff_of_true reported ⟨look, List.mem_append_left _ member, late⟩
    | false =>
      have early : ∀ look ∈ since, ¬ Sight.Overdue threshold change look := by
        intro look member late
        rw [knows.reported_iff.mpr ⟨look, member, late⟩] at reported
        cases reported
      by_cases late : Sight.Overdue threshold change sight
      · rw [observe_of_late same reported (late_iff.mpr late)]
        refine ⟨iff_of_true rfl ⟨late, early⟩, change, since ++ [sight], episode,
          knows.threshold_eq, knows.token_eq, knows.since_eq, ?_⟩
        exact iff_of_true rfl ⟨sight, by simp, late⟩
      · rw [observe_of_early same reported (mt late_iff.mp late)]
        refine ⟨iff_of_false Bool.false_ne_true fun due => late due.1, change, since ++ [sight],
          episode, knows.threshold_eq, knows.token_eq, knows.since_eq, ?_⟩
        refine iff_of_false (by simp [reported]) ?_
        rintro ⟨look, member, overdue⟩
        rcases List.mem_append.mp member with member | member
        · exact early look member overdue
        · rw [List.mem_singleton.mp member] at overdue
          exact late overdue
  · have new : ∀ last ∈ looks.getLast?, last.token ≠ sight.token := by
      intro last ends
      rw [knows.episode.token_last ends, ← knows.token_eq]
      exact Ne.symm same
    rw [observe_of_ne same, knows.threshold_eq]
    exact ⟨iff_of_false Bool.false_ne_true (Episode.renew new).not_due, sight, [],
      start_knows threshold new⟩

/-! ### One look after the other -/

/-- The detector after some looks. -/
def after (detector : Detector) (sights : List Sight) : Detector :=
  sights.foldl (fun detector sight => (detector.observe sight).2) detector

theorem observeAll_cons (detector : Detector) (sight : Sight) (rest : List Sight) :
    detector.observeAll (sight :: rest) =
      (detector.observe sight).1 :: (detector.observe sight).2.observeAll rest :=
  rfl

theorem observeAll_append (detector : Detector) (sights rest : List Sight) :
    detector.observeAll (sights ++ rest) =
      detector.observeAll sights ++ (detector.after sights).observeAll rest := by
  induction sights generalizing detector with
  | nil => rfl
  | cons sight sights ih => exact congrArg ((detector.observe sight).1 :: ·) (ih _)

theorem length_observeAll (detector : Detector) (sights : List Sight) :
    (detector.observeAll sights).length = sights.length := by
  induction sights generalizing detector with
  | nil => rfl
  | cons sight sights ih => exact congrArg (· + 1) (ih _)

/-- The answer to a look is that of the detector after the looks before it. -/
theorem getElem?_observeAll (detector : Detector) (earlier : List Sight) (sight : Sight)
    (later : List Sight) :
    (detector.observeAll (earlier ++ sight :: later))[earlier.length]? =
      some ((detector.after earlier).observe sight).1 := by
  rw [observeAll_append, ← length_observeAll detector earlier, List.getElem?_append_right (Nat.le_refl _),
    Nat.sub_self]
  rfl

/-- What a detector remembers is right after any looks. -/
theorem after_knows {change : Sight} {since : List Sight}
    (knows : detector.Knows threshold looks change since) (sights : List Sight) :
    ∃ change since, (detector.after sights).Knows threshold (looks ++ sights) change since := by
  induction sights generalizing detector looks change since with
  | nil =>
    rw [List.append_nil]
    exact ⟨change, since, knows⟩
  | cons sight sights ih =>
    have next : ∃ change since, (detector.observe sight).2.Knows threshold (looks ++ [sight]) change since :=
      (observe_knows knows).2
    obtain ⟨_, _, further⟩ := next
    rw [← List.singleton_append, ← List.append_assoc]
    exact ih further

theorem after_start_knows (threshold : Nat) (first : Sight) (sights : List Sight) :
    ∃ change since,
      ((start threshold first).after sights).Knows threshold (first :: sights) change since := by
  have started : Knows threshold ([] ++ [first]) (start threshold first) first [] :=
    start_knows threshold (by simp)
  exact after_knows started sights

/-- A detector that has reported does not change while the token stays. -/
theorem after_of_reported (reported : detector.reported = true) {sights : List Sight}
    (same : ∀ look ∈ sights, look.token = detector.token) : detector.after sights = detector := by
  induction sights with
  | nil => rfl
  | cons sight sights ih =>
    show Detector.after (detector.observe sight).2 sights = detector
    rw [observe_of_reported (same sight List.mem_cons_self) reported]
    exact ih fun look member => same look (List.mem_cons_of_mem _ member)

/-- A look that is reported leaves the detector with its token, and having reported. -/
theorem observe_of_true (hang : (detector.observe sight).1 = true) :
    (detector.observe sight).2.reported = true ∧ (detector.observe sight).2.token = sight.token := by
  by_cases same : sight.token = detector.token
  · cases reported : detector.reported with
    | true =>
      rw [observe_of_reported same reported] at hang
      cases hang
    | false =>
      by_cases late : detector.threshold ≤ (sight.time - detector.since).toNat
      · rw [observe_of_late same reported late]
        exact ⟨rfl, same.symm⟩
      · rw [observe_of_early same reported late] at hang
        cases hang
  · rw [observe_of_ne same] at hang
    cases hang

/-- Between two looks that are reported, the token has changed. -/
theorem changed_between_reports {earlier between : List Sight} {one two : Sight}
    (hang : ((detector.after earlier).observe one).1 = true)
    (again : ((detector.after (earlier ++ one :: between)).observe two).1 = true) :
    ∃ look ∈ between ++ [two], look.token ≠ one.token := by
  by_contra! steady
  obtain ⟨reported, token⟩ := observe_of_true hang
  have kept : ((detector.after earlier).observe one).2.after between =
      ((detector.after earlier).observe one).2 :=
    after_of_reported reported fun look member =>
      (steady look (List.mem_append_left _ member)).trans token.symm
  have silent := observe_of_reported ((steady two (by simp)).trans token.symm) reported
  have onward : detector.after (earlier ++ one :: between) =
      ((detector.after earlier).observe one).2.after between := by
    unfold after
    rw [List.foldl_append]
    rfl
  rw [onward, kept, silent] at again
  cases again

/-- A look that finds another token than the one before begins anew. -/
theorem observeAll_of_change {first change : Sight} {earlier : List Sight} (later : List Sight)
    (new : ∀ last ∈ (first :: earlier).getLast?, last.token ≠ change.token) :
    (start threshold first).observeAll (earlier ++ change :: later) =
      (start threshold first).observeAll earlier ++
        false :: (start threshold change).observeAll later := by
  obtain ⟨_, _, knows⟩ := after_start_knows threshold first earlier
  let last := (first :: earlier).getLast (List.cons_ne_nil _ _)
  have ends : (first :: earlier).getLast? = some last := List.getLast?_eq_some_getLast _
  have changed : change.token ≠ ((start threshold first).after earlier).token := by
    rw [knows.token_eq, ← knows.episode.token_last ends]
    exact (new last ends).symm
  rw [observeAll_append, observeAll_cons, observe_of_ne changed, knows.threshold_eq]

end Detector

/-! ## Part 2 — the watcher -/

/-- What happens to a watcher: it makes a step, in which a look finds `sight` and a call of the hook ends as in
`hook`, or it is told to stop. -/
inductive Impulse where
  | step (sight : Sight) (hook : HookEnd)
  | stop
  deriving DecidableEq

/-- A step of the watcher itself. -/
def Impulse.isStep : Impulse → Bool
  | .step .. => true
  | .stop => false

/-- What a watcher does. -/
inductive Deed where
  | looked (sight : Sight)
  | called
  /-- It saw that it was told to stop. -/
  | sawStop
  deriving DecidableEq

namespace Deed

/-- What a look found. -/
def sight? : Deed → Option Sight
  | .looked sight => some sight
  | .called => none
  | .sawStop => none

/-- The looks among some deeds. -/
def sights (deeds : List Deed) : List Sight := deeds.filterMap sight?

@[simp] theorem sights_append (deeds more : List Deed) : sights (deeds ++ more) = sights deeds ++ sights more :=
  List.filterMap_append

end Deed

/-- A look, and a call of the hook if the detector reports it. -/
def Deed.ofLook (look : Sight × Bool) : List Deed :=
  .looked look.1 :: if look.2 then [.called] else []

/-- A first look, and further looks, each followed by a call of the hook if the detector reports it. -/
def account (threshold : Nat) : List Sight → List Deed
  | [] => []
  | first :: looks =>
    .looked first ::
      (looks.zip ((Detector.start threshold first).observeAll looks)).flatMap Deed.ofLook

/-- An account is one of its looks. -/
theorem sights_account (threshold : Nat) (looks : List Sight) : Deed.sights (account threshold looks) = looks := by
  have each (looks : List Sight) (answers : List Bool) (same : looks.length = answers.length) :
      Deed.sights ((looks.zip answers).flatMap Deed.ofLook) = looks := by
    induction looks generalizing answers with
    | nil => rfl
    | cons look looks ih =>
      cases answers with
      | nil => cases same
      | cons answer answers =>
        rw [List.zip_cons_cons, List.flatMap_cons, Deed.sights_append, ih answers (Nat.succ.inj same)]
        cases answer <;> rfl
  cases looks with
  | nil => rfl
  | cons first looks =>
    exact congrArg (first :: ·) (each looks _ (Detector.length_observeAll _ looks).symm)

theorem account_concat (threshold : Nat) (first : Sight) (looks : List Sight) (sight : Sight) :
    account threshold (first :: (looks ++ [sight])) =
      account threshold (first :: looks) ++
        Deed.ofLook (sight, (((Detector.start threshold first).after looks).observe sight).1) := by
  rw [account, account, Detector.observeAll_append,
    List.zip_append (Detector.length_observeAll _ _).symm, List.flatMap_append, List.cons_append]
  congr 2
  exact List.append_nil _

/-- The next step is a look. -/
def Phase.isLook : Phase → Bool
  | .starting => true
  | .looking _ => true
  | _ => false

/-- The watcher does nothing any more. -/
def Phase.isEnd : Phase → Bool
  | .ended => true
  | _ => false

/-- The steps up to and with the next look, at most, of a watcher that nobody tells to stop. -/
def Phase.patience : Phase → Nat
  | .starting => 1
  | .waiting _ => 2
  | .looking _ => 1
  | .alarmed _ => 5
  | .cleared _ => 4
  | .calling _ => 3
  | .ended => 0

/-- The steps up to its end, at most, of a watcher that was told to stop. -/
def Phase.farewell : Phase → Nat
  | .starting => 2
  | .waiting _ => 1
  | .looking _ => 2
  | .alarmed _ => 1
  | .cleared _ => 3
  | .calling _ => 2
  | .ended => 0

theorem Phase.patience_pos {phase : Phase} (running : phase.isEnd = false) : 0 < phase.patience := by
  cases phase with
  | ended => cases running
  | _ => exact Nat.succ_pos _

theorem Phase.patience_le (phase : Phase) : phase.patience ≤ 5 := by
  unfold patience
  split <;> omega

theorem Phase.farewell_le (phase : Phase) : phase.farewell ≤ 3 := by
  unfold farewell
  split <;> omega

namespace Watcher

/-- A watcher after something has happened to it. -/
def take (watcher : Watcher) : Impulse → Watcher
  | .step sight hook => watcher.step sight hook
  | .stop => { watcher with stopped := true }

/-- What a watcher does when something happens to it. It looks when it stands before a look, calls its hook when
it gets inside, and sees that it was told to stop when it ends. -/
def deeds (watcher : Watcher) : Impulse → List Deed
  | .stop => []
  | .step sight hook =>
    let after := (watcher.step sight hook).phase
    (if watcher.phase.isLook then [.looked sight] else []) ++
      (if after.isCalling && !watcher.phase.isCalling then [.called] else []) ++
        if after.isEnd && !watcher.phase.isEnd then [.sawStop] else []

/-- A watcher, and what it did so far, after something more has happened. -/
def live (state : Watcher × List Deed) (impulse : Impulse) : Watcher × List Deed :=
  (state.1.take impulse, state.2 ++ state.1.deeds impulse)

/-- A watcher to which all that has happened since its start, and what it did. -/
def life (threshold : Nat) (impulses : List Impulse) : Watcher × List Deed :=
  impulses.foldl live (fresh threshold, [])

theorem life_append (threshold : Nat) (earlier later : List Impulse) :
    life threshold (earlier ++ later) = later.foldl live (life threshold earlier) :=
  List.foldl_append

/-- The call that is still to come after a look that found a hang. -/
def owed (watcher : Watcher) : List Deed :=
  match watcher.phase with
  | .alarmed _ => [.called]
  | .cleared _ => [.called]
  | _ => []

/-- The deeds are those of a detector that took some looks, but for what is owed. -/
def Accounts (threshold : Nat) (detector : Detector) (deeds owed : List Deed) : Prop :=
  ∃ first looks, detector = (Detector.start threshold first).after looks ∧
    deeds ++ owed = account threshold (first :: looks)

/-- The deeds of a watcher that saw that it was told to stop: before that it accounted for its looks, but for
the call that the last of them may have asked for. -/
def GaveUp (threshold : Nat) (deeds : List Deed) : Prop :=
  ∃ told, deeds = told ++ [.sawStop] ∧
    (told = account threshold (Deed.sights deeds) ∨ told ++ [.called] = account threshold (Deed.sights deeds))

/-- What a watcher did, by where it stands. -/
def Follows (threshold : Nat) (watcher : Watcher) (deeds : List Deed) : Prop :=
  match watcher.phase with
  | .starting => watcher.threshold = threshold ∧ deeds = []
  | .waiting detector => Accounts threshold detector deeds []
  | .looking detector => Accounts threshold detector deeds []
  | .alarmed detector => Accounts threshold detector deeds [.called]
  | .cleared detector => Accounts threshold detector deeds [.called]
  | .calling detector => Accounts threshold detector deeds []
  | .ended => watcher.stopped = true ∧ GaveUp threshold deeds

variable {threshold : Nat} {watcher : Watcher} {deeds : List Deed}

theorem gaveUp_of_account {looks : List Sight}
    (told : deeds = account threshold looks ∨ deeds ++ [.called] = account threshold looks) :
    GaveUp threshold (deeds ++ [.sawStop]) := by
  have looked : Deed.sights (deeds ++ [.sawStop]) = looks := by
    rw [← sights_account threshold looks]
    rcases told with told | told
    · rw [← told, Deed.sights_append]
      exact List.append_nil _
    · rw [← told, Deed.sights_append, Deed.sights_append]
      rfl
  refine ⟨deeds, rfl, ?_⟩
  rw [looked]
  exact told

/-- If what is owed is no look, the account is that of the looks among the deeds. -/
theorem Accounts.eq_account {detector : Detector} {owed : List Deed}
    (accounts : Accounts threshold detector deeds owed) (unseen : Deed.sights owed = []) :
    deeds ++ owed = account threshold (Deed.sights deeds) := by
  obtain ⟨first, looks, _, told⟩ := accounts
  have looked : Deed.sights deeds = first :: looks := by
    rw [← sights_account threshold (first :: looks), ← told, Deed.sights_append, unseen, List.append_nil]
  rw [told, looked]

theorem deeds_looking (threshold : Nat) (stopped : Bool) (detector : Detector) (sight : Sight) (hook : HookEnd) :
    (Watcher.mk threshold stopped (.looking detector)).deeds (.step sight hook) = [.looked sight] := by
  unfold Watcher.deeds step
  dsimp only
  cases (detector.observe sight).1 <;> rfl

theorem deeds_calling (threshold : Nat) (stopped : Bool) (detector : Detector) (sight : Sight) (hook : HookEnd) :
    (Watcher.mk threshold stopped (.calling detector)).deeds (.step sight hook) = [] := by
  cases hook <;> rfl

theorem look_accounts {detector : Detector} (accounts : Accounts threshold detector deeds [])
    (sight : Sight) :
    Accounts threshold (detector.observe sight).2 (deeds ++ [.looked sight])
      (if (detector.observe sight).1 then [.called] else []) := by
  obtain ⟨first, looks, rfl, told⟩ := accounts
  rw [List.append_nil] at told
  refine ⟨first, looks ++ [sight], ?_, ?_⟩
  · unfold Detector.after
    rw [List.foldl_append]
    rfl
  · rw [account_concat, told, List.append_assoc]
    rfl

/-- **A watcher does what its detector tells it to**, whatever happens to it. -/
theorem live_follows (follows : watcher.Follows threshold deeds) (impulse : Impulse) :
    (live (watcher, deeds) impulse).1.Follows threshold (live (watcher, deeds) impulse).2 := by
  obtain ⟨bound, stopped, phase⟩ := watcher
  cases impulse with
  | stop =>
    show Follows threshold ⟨bound, true, phase⟩ (deeds ++ [])
    rw [List.append_nil]
    cases phase with
    | ended => exact ⟨rfl, follows.2⟩
    | _ => exact follows
  | step sight hook =>
    cases phase with
    | starting =>
      obtain ⟨rfl, rfl⟩ := follows
      exact ⟨sight, [], rfl, rfl⟩
    | waiting detector =>
      cases stopped with
      | true =>
        obtain ⟨first, looks, _, told⟩ := follows
        rw [List.append_nil] at told
        exact ⟨rfl, gaveUp_of_account (.inl told)⟩
      | false =>
        show Accounts threshold detector (deeds ++ []) []
        rw [List.append_nil]
        exact follows
    | looking detector =>
      have accounts := look_accounts follows sight
      show Follows threshold ⟨bound, stopped, if (detector.observe sight).1 then
        .alarmed (detector.observe sight).2 else .waiting (detector.observe sight).2⟩ (deeds ++ Watcher.deeds _ _)
      rw [deeds_looking]
      cases hang : (detector.observe sight).1 with
      | true =>
        rw [hang] at accounts
        exact accounts
      | false =>
        rw [hang] at accounts
        exact accounts
    | alarmed detector =>
      cases stopped with
      | true =>
        obtain ⟨first, looks, _, told⟩ := follows
        exact ⟨rfl, gaveUp_of_account (.inr told)⟩
      | false =>
        show Accounts threshold detector (deeds ++ []) [.called]
        rw [List.append_nil]
        exact follows
    | cleared detector =>
      obtain ⟨first, looks, known, told⟩ := follows
      refine ⟨first, looks, known, ?_⟩
      rw [List.append_nil]
      exact told
    | calling detector =>
      show Follows threshold (step ⟨bound, stopped, .calling detector⟩ sight hook) (deeds ++ Watcher.deeds _ _)
      rw [deeds_calling, List.append_nil]
      cases hook with
      | returned => exact follows
      | panicked => exact follows
    | ended =>
      show Follows threshold ⟨bound, stopped, .ended⟩ (deeds ++ [])
      rw [List.append_nil]
      exact follows

theorem life_follows (threshold : Nat) (impulses : List Impulse) :
    (life threshold impulses).1.Follows threshold (life threshold impulses).2 := by
  apply List.foldlRecOn (motive := fun state => state.1.Follows threshold state.2) impulses live
  · exact ⟨rfl, rfl⟩
  · intro state follows impulse _
    exact live_follows follows impulse

/-- A watcher that was never told to stop does not believe so. -/
theorem unstopped_of_never {impulses : List Impulse} (never : .stop ∉ impulses) :
    (life threshold impulses).1.stopped = false := by
  apply List.foldlRecOn (motive := fun state => state.1.stopped = false) impulses live
  · rfl
  · intro state unstopped impulse member
    cases impulse with
    | stop => exact absurd member never
    | step sight hook => exact (stopped_step state.1 sight hook).trans unstopped

theorem stop_mem_of_stopped {impulses : List Impulse}
    (stopped : (life threshold impulses).1.stopped = true) : .stop ∈ impulses := by
  by_contra never
  rw [unstopped_of_never never] at stopped
  cases stopped

/-- **A watcher calls its hook after the looks that its detector reports and at no other time**, however
its calls end, until it sees that it was told to stop; then it neither looks nor calls any more. -/
theorem life_accounts (threshold : Nat) (impulses : List Impulse) :
    (life threshold impulses).2 ++ (life threshold impulses).1.owed =
        account threshold (Deed.sights (life threshold impulses).2) ∨
      .stop ∈ impulses ∧ GaveUp threshold (life threshold impulses).2 := by
  have follows := life_follows threshold impulses
  unfold Follows at follows
  have unseen : Deed.sights (life threshold impulses).1.owed = [] := by
    unfold owed
    cases (life threshold impulses).1.phase <;> rfl
  unfold owed at unseen ⊢
  cases phase : (life threshold impulses).1.phase with
  | starting =>
    rw [phase] at follows
    rw [follows.2]
    exact .inl rfl
  | ended =>
    rw [phase] at follows
    exact .inr ⟨stop_mem_of_stopped follows.1, follows.2⟩
  | waiting detector | looking detector | alarmed detector | cleared detector | calling detector =>
    rw [phase] at follows unseen
    exact .inl (follows.eq_account unseen)

/-! ### How soon -/

/-- **A step that is no look brings the next look nearer**, however the call ends that it may be in. -/
theorem step_patience (unstopped : watcher.stopped = false) (running : watcher.phase.isEnd = false)
    (sight : Sight) (hook : HookEnd) :
    (watcher.step sight hook).phase.isEnd = false ∧
      (watcher.step sight hook).phase.patience + 1 ≤
        watcher.phase.patience + 5 * (Deed.sights (watcher.deeds (.step sight hook))).length := by
  obtain ⟨bound, stopped, phase⟩ := watcher
  obtain rfl : stopped = false := unstopped
  cases phase with
  | starting => exact ⟨rfl, (by decide : 2 + 1 ≤ 1 + 5 * 1)⟩
  | waiting detector => exact ⟨rfl, (by decide : 1 + 1 ≤ 2 + 5 * 0)⟩
  | looking detector =>
    rw [deeds_looking]
    unfold step
    dsimp only
    cases (detector.observe sight).1 with
    | true => exact ⟨rfl, (by decide : 5 + 1 ≤ 1 + 5 * 1)⟩
    | false => exact ⟨rfl, (by decide : 2 + 1 ≤ 1 + 5 * 1)⟩
  | alarmed detector => exact ⟨rfl, (by decide : 4 + 1 ≤ 5 + 5 * 0)⟩
  | cleared detector => exact ⟨rfl, (by decide : 3 + 1 ≤ 4 + 5 * 0)⟩
  | calling detector =>
    rw [deeds_calling]
    cases hook with
    | returned => exact ⟨rfl, (by decide : 2 + 1 ≤ 3 + 5 * 0)⟩
    | panicked => exact ⟨rfl, (by decide : 2 + 1 ≤ 3 + 5 * 0)⟩
  | ended => cases running

/-- Steps are paid for by looks, five by each, and by the patience that they use up. -/
theorem length_add_patience_le {impulses : List Impulse} (state : Watcher × List Deed) (never : .stop ∉ impulses)
    (unstopped : state.1.stopped = false) (running : state.1.phase.isEnd = false) :
    (impulses.foldl live state).1.phase.isEnd = false ∧
      impulses.length + (impulses.foldl live state).1.phase.patience + 5 * (Deed.sights state.2).length ≤
        state.1.phase.patience + 5 * (Deed.sights (impulses.foldl live state).2).length := by
  induction impulses generalizing state with
  | nil => exact ⟨running, by simp⟩
  | cons impulse impulses ih =>
    obtain ⟨here, later⟩ := not_or.mp (List.mem_cons.not.mp never)
    cases impulse with
    | stop => exact absurd rfl here
    | step sight hook =>
      obtain ⟨still, nearer⟩ := step_patience unstopped running sight hook
      obtain ⟨ends, count⟩ := ih (live state (.step sight hook)) later
        ((stopped_step state.1 sight hook).trans unstopped) still
      have looked : (Deed.sights (live state (.step sight hook)).2).length = (Deed.sights state.2).length +
          (Deed.sights (state.1.deeds (.step sight hook))).length := by
        rw [live, Deed.sights_append, List.length_append]
      have after : (live state (.step sight hook)).1 = state.1.step sight hook := rfl
      rw [looked, after] at count
      rw [List.foldl_cons, List.length_cons]
      exact ⟨ends, by omega⟩

/-- **Of any five steps one is a look**, unless the watcher was told to stop. -/
theorem looks_within_five (threshold : Nat) {earlier later : List Impulse} (unstopped : .stop ∉ earlier ++ later)
    (enough : 5 ≤ later.length) :
    (Deed.sights (life threshold earlier).2).length < (Deed.sights (life threshold (earlier ++ later)).2).length := by
  obtain ⟨before, after⟩ := not_or.mp (List.mem_append.not.mp unstopped)
  obtain ⟨runs, -⟩ := length_add_patience_le (fresh threshold, []) before rfl rfl
  obtain ⟨still, count⟩ := length_add_patience_le (life threshold earlier) after (unstopped_of_never before) runs
  have least := Phase.patience_pos still
  have most := (life threshold earlier).1.phase.patience_le
  rw [life_append]
  omega

theorem deeds_prefix_foldl (impulses : List Impulse) (state : Watcher × List Deed) :
    state.2 <+: (impulses.foldl live state).2 := by
  apply List.foldlRecOn (motive := fun later => state.2 <+: later.2) impulses live
  · exact List.prefix_rfl
  · intro later before impulse _
    exact before.trans (List.prefix_append _ _)

/-- Two steps pay what is owed. -/
theorem owed_prefix_deeds (unstopped : watcher.stopped = false) (sight again : Sight) (hook last : HookEnd) :
    watcher.owed <+:
      watcher.deeds (.step sight hook) ++ (watcher.step sight hook).deeds (.step again last) := by
  obtain ⟨bound, stopped, phase⟩ := watcher
  obtain rfl : stopped = false := unstopped
  cases phase with
  | alarmed detector => exact List.prefix_rfl
  | cleared detector => exact List.prefix_append [Deed.called] _
  | _ => exact List.nil_prefix

/-- **A call that is owed is made by the next two steps**, unless the watcher was told to stop. -/
theorem owed_within_two (threshold : Nat) {earlier later : List Impulse} (unstopped : .stop ∉ earlier ++ later)
    (enough : 2 ≤ later.length) :
    (life threshold earlier).2 ++ (life threshold earlier).1.owed <+: (life threshold (earlier ++ later)).2 := by
  obtain ⟨before, after⟩ := not_or.mp (List.mem_append.not.mp unstopped)
  have untold : (life threshold earlier).1.stopped = false := unstopped_of_never before
  rw [life_append]
  obtain ⟨first, second, rest, rfl⟩ : ∃ first second rest, later = first :: second :: rest := by
    cases later with
    | nil => cases enough
    | cons first later =>
      cases later with
      | nil => exact absurd enough (Nat.lt_irrefl 1)
      | cons second rest => exact ⟨first, second, rest, rfl⟩
  cases first with
  | stop => exact absurd List.mem_cons_self after
  | step sight hook =>
    cases second with
    | stop => exact absurd (List.mem_cons_of_mem _ List.mem_cons_self) after
    | step again last =>
      refine List.IsPrefix.trans ?_ (deeds_prefix_foldl rest _)
      show _ <+: (_ ++ _) ++ _
      rw [List.append_assoc]
      exact (List.prefix_append_right_inj _).mpr (owed_prefix_deeds untold sight again hook last)

/-- A step of a watcher that was told to stop brings its end nearer. -/
theorem step_farewell (stopped : watcher.stopped = true) (sight : Sight) (hook : HookEnd) :
    (watcher.step sight hook).phase.farewell ≤ watcher.phase.farewell - 1 := by
  obtain ⟨bound, stopped, phase⟩ := watcher
  subst stopped
  cases phase with
  | looking detector =>
    unfold step
    dsimp only
    cases (detector.observe sight).1 <;> exact Nat.le_refl 1
  | calling detector => cases hook <;> exact Nat.le_refl 1
  | starting | cleared detector => exact Nat.le_refl _
  | waiting detector | alarmed detector | ended => exact Nat.zero_le _

theorem farewell_foldl_le (impulses : List Impulse) (state : Watcher × List Deed)
    (stopped : state.1.stopped = true) :
    (impulses.foldl live state).1.phase.farewell ≤
      state.1.phase.farewell - impulses.countP Impulse.isStep := by
  induction impulses generalizing state with
  | nil => exact Nat.le_refl _
  | cons impulse impulses ih =>
    cases impulse with
    | stop =>
      rw [List.countP_cons_of_neg Bool.false_ne_true]
      exact ih (live state .stop) rfl
    | step sight hook =>
      have nearer := step_farewell stopped sight hook
      have further := ih (live state (.step sight hook)) ((stopped_step state.1 sight hook).trans stopped)
      have after : (live state (.step sight hook)).1 = state.1.step sight hook := rfl
      rw [after] at further
      rw [List.countP_cons_of_pos rfl, List.foldl_cons]
      omega

/-- A watcher that was told to stop has ended three steps later. -/
theorem ended_of_stop (threshold : Nat) (earlier : List Impulse) {later : List Impulse}
    (enough : 3 ≤ later.countP Impulse.isStep) :
    (life threshold (earlier ++ .stop :: later)).1.phase.isEnd = true := by
  have left := farewell_foldl_le later (live (life threshold earlier) .stop) rfl
  have most := (live (life threshold earlier) .stop).1.phase.farewell_le
  rw [life_append, List.foldl_cons]
  have finished : (later.foldl live (live (life threshold earlier) .stop)).1.phase.farewell = 0 := by omega
  cases phase : (later.foldl live (live (life threshold earlier) .stop)).1.phase with
  | ended => rfl
  | _ =>
    rw [phase] at finished
    cases finished

/-- **A watcher that was told to stop gives up** within three steps. -/
theorem gaveUp_of_stop (threshold : Nat) (earlier : List Impulse) {later : List Impulse}
    (enough : 3 ≤ later.countP Impulse.isStep) :
    GaveUp threshold (life threshold (earlier ++ .stop :: later)).2 := by
  have follows := life_follows threshold (earlier ++ .stop :: later)
  have ended := ended_of_stop threshold earlier enough
  unfold Follows at follows
  cases phase : (life threshold (earlier ++ .stop :: later)).1.phase with
  | ended =>
    rw [phase] at follows
    exact follows.2
  | _ =>
    rw [phase] at ended
    cases ended

end Watcher

/-- **Each hang is reported once, by the first look that finds it.**

A detector reports a look exactly if it is the first of its episode that comes as late as the threshold after
the beginning. So between two looks that are reported the token has changed; and a change to any other
token begins anew.

A watcher calls its hook after the looks that are reported and at no other time, however the calls end, until
it sees that it was told to stop; it does nothing after that. Unless it was told to stop, it makes a call that it
owes within two steps, and of any five of its steps one is a look, after a call that panics as after any other. Once
it was told to stop, it gives up within three steps. -/
theorem reported_once_each (threshold : Nat) (first : Sight) :
    (∀ earlier now later,
      ((Detector.start threshold first).observeAll (earlier ++ now :: later))[earlier.length]? =
          some true ↔ Due threshold (first :: earlier ++ [now])) ∧
    (∀ earlier one between two later,
      let answers := (Detector.start threshold first).observeAll
        (earlier ++ one :: between ++ two :: later)
      answers[earlier.length]? = some true → answers[(earlier ++ one :: between).length]? = some true →
        ∃ look ∈ between ++ [two], look.token ≠ one.token) ∧
    (∀ earlier change later, (∀ last ∈ (first :: earlier).getLast?, last.token ≠ change.token) →
      (Detector.start threshold first).observeAll (earlier ++ change :: later) =
        (Detector.start threshold first).observeAll earlier ++
          false :: (Detector.start threshold change).observeAll later) ∧
    (∀ impulses,
      let (watcher, deeds) := Watcher.life threshold impulses
      deeds ++ watcher.owed = account threshold (Deed.sights deeds) ∨
        .stop ∈ impulses ∧ Watcher.GaveUp threshold deeds) ∧
    (∀ earlier later, .stop ∉ earlier ++ later →
      let (watcher, deeds) := Watcher.life threshold earlier
      let after := (Watcher.life threshold (earlier ++ later)).2
      (2 ≤ later.length → deeds ++ watcher.owed <+: after) ∧
      (5 ≤ later.length → (Deed.sights deeds).length < (Deed.sights after).length)) ∧
    ∀ earlier later, 3 ≤ later.countP Impulse.isStep →
      Watcher.GaveUp threshold (Watcher.life threshold (earlier ++ .stop :: later)).2 := by
  refine ⟨?_, ?_, ?_, Watcher.life_accounts threshold, fun earlier later unstopped =>
    ⟨Watcher.owed_within_two threshold unstopped, Watcher.looks_within_five threshold unstopped⟩,
    fun earlier later enough => Watcher.gaveUp_of_stop threshold earlier enough⟩
  · intro earlier now later
    obtain ⟨_, _, knows⟩ := Detector.after_start_knows threshold first earlier
    rw [Detector.getElem?_observeAll, Option.some.injEq]
    exact (Detector.observe_knows knows).1
  · intro earlier one between two later answers hang again
    unfold answers at hang again
    rw [Detector.getElem?_observeAll, Option.some.injEq] at again
    rw [List.append_assoc, List.cons_append, Detector.getElem?_observeAll, Option.some.injEq] at hang
    exact Detector.changed_between_reports hang again
  · exact fun earlier change later new => Detector.observeAll_of_change later new

/-- A watcher finds a hang, its hook panics, it finds the token changed, finds another hang, and is inside its hook
again. -/
def startled : List Impulse :=
  [.step ⟨7, 0⟩ .returned, .step ⟨7, 0⟩ .returned, .step ⟨7, 60⟩ .returned, .step ⟨7, 60⟩ .returned,
    .step ⟨7, 60⟩ .returned, .step ⟨7, 61⟩ .panicked, .step ⟨7, 61⟩ .returned, .step ⟨3, 95⟩ .returned,
    .step ⟨3, 95⟩ .returned, .step ⟨3, 145⟩ .returned, .step ⟨3, 145⟩ .returned, .step ⟨3, 145⟩ .returned]

/-- Two hangs with a recovery between them, by a token that goes back. A watcher reports both, although its hook
panics at the first one: it looks again, and makes the second call, which it owes after ten steps. Had it been told
to stop then, it would have given up. -/
theorem reported_once_each_recovered :
    (Detector.start 50 ⟨7, 0⟩).observeAll [⟨7, 10⟩, ⟨7, 60⟩, ⟨7, 90⟩, ⟨3, 95⟩, ⟨3, 40⟩, ⟨3, 145⟩] =
        [false, true, false, false, false, true] ∧
      Due 50 [⟨7, 0⟩, ⟨7, 10⟩, ⟨7, 60⟩] ∧
      (∃ look ∈ ([⟨7, 90⟩, ⟨3, 95⟩, ⟨3, 40⟩, ⟨3, 145⟩] : List Sight), look.token ≠ 7) ∧
      (Detector.start 50 ⟨7, 0⟩).observeAll ([⟨7, 10⟩, ⟨7, 60⟩, ⟨7, 90⟩] ++ ⟨3, 95⟩ :: [⟨3, 40⟩, ⟨3, 145⟩]) =
        (Detector.start 50 ⟨7, 0⟩).observeAll [⟨7, 10⟩, ⟨7, 60⟩, ⟨7, 90⟩] ++
          false :: (Detector.start 50 ⟨3, 95⟩).observeAll [⟨3, 40⟩, ⟨3, 145⟩] ∧
      (Watcher.life 50 startled).2 =
        [.looked ⟨7, 0⟩, .looked ⟨7, 60⟩, .called, .looked ⟨3, 95⟩, .looked ⟨3, 145⟩, .called] ∧
      (Watcher.life 50 startled).2 ++ [] = account 50 [⟨7, 0⟩, ⟨7, 60⟩, ⟨3, 95⟩, ⟨3, 145⟩] ∧
      (Deed.sights (Watcher.life 50 (startled.take 5)).2).length < (Deed.sights (Watcher.life 50 startled).2).length ∧
      (Watcher.life 50 (startled.take 10)).2 ++ [.called] <+: (Watcher.life 50 startled).2 ∧
      Watcher.GaveUp 50 (Watcher.life 50 (startled.take 10 ++
        .stop :: List.replicate 3 (.step ⟨3, 150⟩ .returned))).2 := by
  obtain ⟨due, changed, anew, lives, goes, gives⟩ := reported_once_each 50 ⟨7, 0⟩
  have unstopped : Impulse.stop ∉ startled := by decide
  obtain accounts | ⟨told, _⟩ := lives startled
  · refine ⟨by decide, (due [⟨7, 10⟩] ⟨7, 60⟩ []).mp (by decide), ?_, anew _ _ _ (by decide), by decide, accounts,
      ?_, ?_, gives (startled.take 10) _ (by decide)⟩
    · exact changed [⟨7, 10⟩] ⟨7, 60⟩ [⟨7, 90⟩, ⟨3, 95⟩, ⟨3, 40⟩] ⟨3, 145⟩ [] (by decide) (by decide)
    · exact (goes (startled.take 5) (startled.drop 5) unstopped).2 (by decide)
    · exact (goes (startled.take 10) (startled.drop 10) unstopped).1 (by decide)
  · exact absurd told unstopped

end CrashReporter.Hang
