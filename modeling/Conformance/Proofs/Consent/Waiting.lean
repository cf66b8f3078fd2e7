import Conformance.Consent.Wait
import Mathlib.Data.List.Basic

/-!
# Waiting on a schedule

What a wait for consent items returns, and what it leaves on the channel, when items are sent and
the channel is closed at given times. `Schedule.Settles` distinguishes three ways to end: enough
items before the deadline, the channel closed before it, and neither. One deadline holds for the
whole wait, so all that counts is which items are sent before it (`Schedule.sentBefore`).

The induction is over the items that come in time (`receiveItems_early`): the wait takes them one by
one until it has enough. `Machine.wait_schedule` is about whole waits: one whose deadline the clock of
the machine can tell, and for whose items the machine has room, returns; any other stops the program.
-/

namespace Conformance

/-- When items are sent and when the last sender is gone, if it ever is. Times are counted from the
start of the wait; what happened before stands at time zero. -/
structure Schedule where
  /-- The items in the order of sending, each with its time. -/
  sends : List (Nat × ConsentItem)
  /-- When the last sender is gone. -/
  closing : Option Nat
  /-- Items are listed in the order of their times. -/
  sends_ordered : sends.Pairwise fun a b => a.1 ≤ b.1
  /-- Nothing is sent after the last sender is gone. -/
  closing_last : ∀ c ∈ closing, ∀ s ∈ sends, s.1 ≤ c

namespace Schedule

/-- The schedule as what happens to the channel. -/
def feed (s : Schedule) : Feed :=
  s.sends.map (fun e => (e.1, FeedEvent.sent e.2)) ++ (s.closing.map fun c => (c, .closed)).toList

/-- All items that are sent, in order. -/
def items (s : Schedule) : List ConsentItem := s.sends.map (·.2)

/-- The items that are sent before a time, in order. -/
def sentBefore (s : Schedule) (deadline : Nat) : List ConsentItem :=
  (s.sends.filter fun e => decide (e.1 < deadline)).map (·.2)

/-- Whether the last sender is gone before a time. -/
def ClosedBefore (s : Schedule) (deadline : Nat) : Prop := ∃ c ∈ s.closing, c < deadline

end Schedule

/-! ## Settling -/

theorem ConsentItem.isError_iff {i : ConsentItem} : i.isError = true ↔ i.error ≠ "" := by
  simp [isError]

theorem settleItems_ok {items : List ConsentItem} (h : ∀ i ∈ items, i.error = "") :
    settleItems items = .ok items := by
  have hnone : items.filter (·.isError) = [] := by
    rw [List.filter_eq_nil_iff]
    intro i hi herr
    exact ConsentItem.isError_iff.mp herr (h i hi)
  simp [settleItems, hnone]

theorem settleItems_failed {items : List ConsentItem} (h : ∃ i ∈ items, i.error ≠ "") :
    settleItems items =
      .error (.flowsFailed ((items.filter (·.isError)).map (·.failure)) items) := by
  obtain ⟨i, hi, herr⟩ := h
  have hmem : i ∈ items.filter (·.isError) :=
    List.mem_filter.mpr ⟨hi, ConsentItem.isError_iff.mpr herr⟩
  have hne : (items.filter (·.isError)).isEmpty = false := by
    cases hl : items.filter (·.isError) with
    | nil => simp [hl] at hmem
    | cons => rfl
  simp [settleItems, hne]

/-! ## Receiving -/

theorem receiveItems_enough {required deadline : Nat} {received : List ConsentItem} {feed : Feed}
    (h : required ≤ received.length) :
    receiveItems required deadline received feed = (settleItems received, feed) := by
  unfold receiveItems
  rw [if_pos h]

/-- Items that come in time are taken until there are enough; the rest stays. -/
theorem receiveItems_early {required deadline : Nat} {received : List ConsentItem}
    {sends : List (Nat × ConsentItem)} {rest : Feed}
    (hearly : ∀ e ∈ sends, e.1 = 0 ∨ e.1 < deadline)
    (hreceived : received.length ≤ required) :
    receiveItems required deadline received
        (sends.map (fun e => (e.1, FeedEvent.sent e.2)) ++ rest) =
      if required ≤ received.length + sends.length then
        (settleItems ((received ++ sends.map (·.2)).take required),
          (sends.map (fun e => (e.1, FeedEvent.sent e.2)) ++ rest).drop
            (required - received.length))
      else receiveItems required deadline (received ++ sends.map (·.2)) rest := by
  induction sends generalizing received with
  | nil =>
      simp only [List.map_nil, List.nil_append, List.append_nil, List.length_nil, Nat.add_zero]
      split
      next hle =>
        have heq : required = received.length := Nat.le_antisymm hle hreceived
        rw [receiveItems_enough hle, heq, List.take_length, Nat.sub_self, List.drop_zero]
      next => rfl
  | cons e sends ih =>
      by_cases henough : required ≤ received.length
      · have heq : required = received.length := Nat.le_antisymm henough hreceived
        rw [receiveItems_enough henough, if_pos (by omega), heq, List.take_left', Nat.sub_self,
          List.drop_zero]
        rfl
      · have htime : ¬ (e.1 ≠ 0 ∧ deadline ≤ e.1) := by
          have := hearly e List.mem_cons_self
          omega
        have hstep : receiveItems required deadline received
            ((e.1, FeedEvent.sent e.2) :: (sends.map (fun e => (e.1, FeedEvent.sent e.2)) ++ rest)) =
            receiveItems required deadline (received ++ [e.2])
              (sends.map (fun e => (e.1, FeedEvent.sent e.2)) ++ rest) := by
          conv_lhs => unfold receiveItems
          rw [if_neg henough]
          simp only [if_neg htime]
        have hlen : (received ++ [e.2]).length = received.length + 1 := by simp
        rw [List.map_cons, List.cons_append, hstep,
          ih (fun x hx => hearly x (List.mem_cons_of_mem e hx)) (by rw [hlen]; omega), hlen]
        have hdrop : required - received.length = (required - (received.length + 1)) + 1 := by
          omega
        rw [hdrop, List.drop_succ_cons, List.map_cons, List.append_assoc, List.singleton_append,
          List.length_cons]
        congr 1
        · rw [Nat.add_assoc, Nat.add_comm 1]

/-- Short of items, the wait ends when the channel closes in time. -/
theorem receiveItems_closed {required deadline c : Nat} {received : List ConsentItem}
    (hshort : received.length < required) (hc : c = 0 ∨ c < deadline) :
    receiveItems required deadline received [(c, .closed)] =
      (.error (.closed received.length required received), [(c, .closed)]) := by
  unfold receiveItems
  rw [if_neg (by omega)]
  simp only
  rw [if_neg (by omega)]

/-- Short of items, the wait runs out of time when nothing more happens in time. -/
theorem receiveItems_late {required deadline : Nat} {received : List ConsentItem} {feed : Feed}
    (hshort : received.length < required) (hlate : ∀ e ∈ feed, e.1 ≠ 0 ∧ deadline ≤ e.1) :
    receiveItems required deadline received feed =
      (.error (.timeout received.length required received), feed) := by
  unfold receiveItems
  rw [if_neg (by omega)]
  cases feed with
  | nil => rfl
  | cons e rest =>
      obtain ⟨time, event⟩ := e
      simp only
      rw [if_pos (hlate _ List.mem_cons_self)]

/-! ## Schedules -/

/-- In an ordered list, what is before a time stands in front of the rest. -/
theorem filter_before_append {α : Type} {l : List (Nat × α)} (h : l.Pairwise fun a b => a.1 ≤ b.1)
    (deadline : Nat) :
    (l.filter fun e => decide (e.1 < deadline)) ++ (l.filter fun e => !decide (e.1 < deadline)) =
      l := by
  induction l with
  | nil => rfl
  | cons e rest ih =>
      obtain ⟨he, hrest⟩ := List.pairwise_cons.mp h
      by_cases hlt : e.1 < deadline
      · rw [List.filter_cons_of_pos (by simpa using hlt),
          List.filter_cons_of_neg (by simpa using hlt), List.cons_append, ih hrest]
      · have hnone : (rest.filter fun x => decide (x.1 < deadline)) = [] := by
          rw [List.filter_eq_nil_iff]
          intro x hx hxlt
          have := he x hx
          have := of_decide_eq_true hxlt
          omega
        rw [List.filter_cons_of_neg (by simpa using hlt),
          List.filter_cons_of_pos (by simpa using hlt), hnone, List.nil_append]
        rw [hnone, List.nil_append] at ih
        rw [ih hrest]

namespace Schedule

/-- The items that a wait takes: the first ones that are sent before the deadline. -/
def taken (s : Schedule) (required deadline : Nat) : List ConsentItem :=
  (s.sentBefore deadline).take required

/-- A schedule in two parts: the items before a time, and what happens from then on. -/
theorem feed_split (s : Schedule) (deadline : Nat) :
    ∃ early late : List (Nat × ConsentItem),
      s.sends = early ++ late ∧ s.sentBefore deadline = early.map (·.2) ∧
      (∀ e ∈ early, e.1 < deadline) ∧ ∀ e ∈ late, deadline ≤ e.1 := by
  refine ⟨_, _, (filter_before_append s.sends_ordered deadline).symm, rfl, ?_, ?_⟩
  · intro e he
    simpa using (List.mem_filter.mp he).2
  · intro e he
    simpa using (List.mem_filter.mp he).2

/-- With enough items before the deadline, a wait takes the first of them. -/
theorem receiveItems_feed {s : Schedule} {n deadline : Nat}
    (h : n ≤ (s.sentBefore deadline).length) :
    receiveItems n deadline [] s.feed = (settleItems (s.taken n deadline), s.feed.drop n) := by
  obtain ⟨early, late, hsends, hbefore, hearly, -⟩ := s.feed_split deadline
  have hlen : n ≤ ([] : List ConsentItem).length + early.length := by
    rw [hbefore, List.length_map] at h
    simpa using h
  rw [feed, hsends, List.map_append, List.append_assoc,
    receiveItems_early (fun e he => .inr (hearly e he)) (Nat.zero_le n), if_pos hlen, taken,
    hbefore]
  rfl

theorem taken_of_short {s : Schedule} {n deadline : Nat}
    (h : (s.sentBefore deadline).length < n) : s.taken n deadline = s.sentBefore deadline :=
  List.take_of_length_le (Nat.le_of_lt h)

/-- Short of items, a wait takes all that are sent before the deadline. It ends with the closing of the
channel, if that is before the deadline, and else when the time is up. -/
theorem receiveItems_feed_short {s : Schedule} {n deadline : Nat} (hdeadline : deadline ≠ 0)
    (h : (s.sentBefore deadline).length < n) :
    ∃ front rest, s.feed = front ++ rest ∧
      front.map (·.2) = (s.taken n deadline).map FeedEvent.sent ∧
      (s.ClosedBefore deadline → s.items.length < n ∧
        receiveItems n deadline [] s.feed = (.error (.closed s.items.length n s.items), rest)) ∧
      (¬ s.ClosedBefore deadline → receiveItems n deadline [] s.feed =
        (.error (.timeout (s.sentBefore deadline).length n (s.sentBefore deadline)), rest)) := by
  obtain ⟨early, late, hsends, hbefore, hearly, hlate⟩ := s.feed_split deadline
  have hlen : ¬ n ≤ ([] : List ConsentItem).length + early.length := by
    rw [hbefore, List.length_map] at h
    simpa using h
  have hreceive : receiveItems n deadline [] s.feed =
      receiveItems n deadline (s.sentBefore deadline)
        (late.map (fun e => (e.1, FeedEvent.sent e.2)) ++
          (s.closing.map fun c => (c, FeedEvent.closed)).toList) := by
    rw [feed, hsends, List.map_append, List.append_assoc,
      receiveItems_early (fun e he => .inr (hearly e he)) (Nat.zero_le n), if_neg hlen, hbefore,
      List.nil_append]
  refine ⟨early.map fun e => (e.1, FeedEvent.sent e.2),
    late.map (fun e => (e.1, FeedEvent.sent e.2)) ++
      (s.closing.map fun c => (c, FeedEvent.closed)).toList, ?_, ?_, ?_, ?_⟩
  · rw [feed, hsends, List.map_append, List.append_assoc]
  · rw [taken_of_short h, hbefore, List.map_map, List.map_map]
    rfl
  · rintro ⟨c, hc, hclt⟩
    -- Nothing is sent after the closing, so nothing is sent at the deadline or later.
    have hnone : late = [] := by
      cases late with
      | nil => rfl
      | cons e rest =>
          have hmem : e ∈ s.sends := by simp [hsends]
          have := s.closing_last c hc e hmem
          have := hlate e List.mem_cons_self
          omega
    have hitems : s.sentBefore deadline = s.items := by
      rw [hbefore, items, hsends, hnone, List.append_nil]
    rw [hreceive, hnone, Option.mem_def.mp hc, hitems]
    rw [hitems] at h
    exact ⟨h, receiveItems_closed h (.inr hclt)⟩
  · intro hopen
    rw [hreceive]
    refine receiveItems_late h fun e he => ?_
    have hge : deadline ≤ e.1 := by
      rcases List.mem_append.mp he with he | he
      · obtain ⟨x, hx, rfl⟩ := List.mem_map.mp he
        exact hlate x hx
      · obtain ⟨c, hc, rfl⟩ := Option.map_eq_some_iff.mp (Option.mem_toList.mp he)
        exact Nat.not_lt.mp fun hclt => hopen ⟨c, hc, hclt⟩
    exact ⟨by omega, hge⟩

/-- A feed begins with the items that a wait takes. -/
theorem take_feed {s : Schedule} {n deadline : Nat} (h : n ≤ (s.sentBefore deadline).length) :
    (s.feed.take n).map (·.2) = (s.taken n deadline).map FeedEvent.sent := by
  obtain ⟨early, late, hsends, hbefore, -, -⟩ := s.feed_split deadline
  have hlen : n ≤ (early.map fun e => (e.1, FeedEvent.sent e.2)).length := by
    simpa [hbefore] using h
  rw [feed, hsends, List.map_append, List.append_assoc, List.take_append_of_le_length hlen, taken,
    hbefore, ← List.map_take, ← List.map_take, List.map_map, List.map_map]
  rfl

end Schedule

/-! ## Waits -/

/-- What comes of a wait for `n` items, which is given up at `deadline`. -/
structure Schedule.Settles (s : Schedule) (n deadline : Nat)
    (outcome : Except ConsentError (List ConsentItem)) (left : Feed) : Prop where
  /-- Enough items come in time: the first `n`, or one line for each of them that failed. -/
  enough : n ≤ (s.sentBefore deadline).length → (s.taken n deadline).length = n ∧
    ((∀ i ∈ s.taken n deadline, i.error = "") → outcome = .ok (s.taken n deadline)) ∧
    ((∃ i ∈ s.taken n deadline, i.error ≠ "") →
      outcome = .error (.flowsFailed
        (((s.taken n deadline).filter (·.error ≠ "")).map fun i => i.tokenName ++ ": " ++ i.error)
        (s.taken n deadline)))
  /-- The last sender is gone before that: all items. -/
  closed : (s.sentBefore deadline).length < n → s.ClosedBefore deadline →
    outcome = .error (.closed s.items.length n s.items) ∧ s.items.length < n
  /-- The time is up: the items that came in time. -/
  late : (s.sentBefore deadline).length < n → ¬ s.ClosedBefore deadline →
    outcome = .error (.timeout (s.sentBefore deadline).length n (s.sentBefore deadline))
  /-- No item is taken off the channel after the `n`-th. -/
  left : ∃ front, s.feed = front ++ left ∧
    front.map (·.2) = (s.taken n deadline).map FeedEvent.sent

/-- A wait that has begun settles. -/
theorem Schedule.settles_wait (n deadline : Nat) (s : Schedule) (hdeadline : deadline ≠ 0) :
    s.Settles n deadline (waitForItems n deadline s.feed) (leftByWait n deadline s.feed) := by
  refine ⟨fun h => ?_, fun h hclosed => ?_, fun h hopen => ?_, ?_⟩
  · have hwait : waitForItems n deadline s.feed = settleItems (s.taken n deadline) := by
      rw [waitForItems, Schedule.receiveItems_feed h]
    refine ⟨List.length_take_of_le h, fun hok => ?_, fun hfailed => ?_⟩
    · rw [hwait, settleItems_ok hok]
    · rw [hwait, settleItems_failed hfailed]
      have hfilter : (fun i : ConsentItem => i.isError) = fun i => decide (i.error ≠ "") := by
        funext i
        exact Bool.eq_iff_iff.mpr (by simp [ConsentItem.isError_iff])
      rw [hfilter]
      rfl
  · obtain ⟨front, rest, -, -, hends, -⟩ := Schedule.receiveItems_feed_short hdeadline h
    obtain ⟨hlt, hreceive⟩ := hends hclosed
    rw [waitForItems, hreceive]
    exact ⟨rfl, hlt⟩
  · obtain ⟨front, rest, -, -, -, hends⟩ := Schedule.receiveItems_feed_short hdeadline h
    rw [waitForItems, hends hopen]
  · rcases Nat.lt_or_ge (s.sentBefore deadline).length n with h | h
    · obtain ⟨front, rest, hfeed, hfront, hclosing, hlate⟩ :=
        Schedule.receiveItems_feed_short hdeadline h
      have hleft : leftByWait n deadline s.feed = rest := by
        rw [leftByWait]
        by_cases hclosed : s.ClosedBefore deadline
        · rw [(hclosing hclosed).2]
        · rw [hlate hclosed]
      exact ⟨front, by rw [hleft, hfeed], hfront⟩
    · refine ⟨s.feed.take n, ?_, Schedule.take_feed h⟩
      rw [leftByWait, Schedule.receiveItems_feed h, List.take_append_drop]

namespace Machine

/-- Where the deadline can be told and there is room, a wait begins. -/
theorem beginWait_eq_ok {m : Machine} {n timeout : Nat}
    (htold : m.clock.now + timeout ≤ m.clock.last) (hroom : n ≤ m.room) :
    m.beginWait n timeout = .ok (m.clock.now + timeout) := by
  rw [beginWait, Clock.ahead?, if_pos htold]
  exact if_pos hroom

theorem wait_eq_ok {m : Machine} {n timeout : Nat} (htold : m.clock.now + timeout ≤ m.clock.last)
    (hroom : n ≤ m.room) (feed : Feed) :
    m.wait n timeout feed = .ok (waitForItems n timeout feed, leftByWait n timeout feed) := by
  rw [wait, beginWait_eq_ok htold hroom]
  simp only [bind, Except.bind, pure, Except.pure, Nat.add_sub_cancel_left]

theorem wait_untold {m : Machine} {timeout : Nat} (h : m.clock.last < m.clock.now + timeout)
    (n : Nat) (feed : Feed) : m.wait n timeout feed = .error .untold := by
  have hbegin : m.beginWait n timeout = .error .untold := by
    rw [beginWait, Clock.ahead?, if_neg (Nat.not_le.mpr h)]
  rw [wait, hbegin]
  rfl

theorem wait_crowded {m : Machine} {n timeout : Nat} (htold : m.clock.now + timeout ≤ m.clock.last)
    (h : m.room < n) (feed : Feed) : m.wait n timeout feed = .error .crowded := by
  have hbegin : m.beginWait n timeout = .error .crowded := by
    rw [beginWait, Clock.ahead?, if_pos htold]
    exact if_neg (Nat.not_le.mpr h)
  rw [wait, hbegin]
  rfl

/-- **The ends of a wait.** If the clock of the machine cannot tell the deadline of a wait, or the
machine has no room for the items, the program is stopped before anything is received. Every other
wait returns, with a time that is not up at once: with the first `n` items that are sent before the
deadline if there are as many, or a report of those of them that failed, one line each; with the
report of a closed channel and all items, if the last sender is gone before the deadline; and
otherwise with the report that the time is up and the items sent so far. In no case is an item taken
off the channel after the `n`-th. -/
theorem wait_schedule (m : Machine) (n timeout : Nat) (s : Schedule) (htimeout : timeout ≠ 0) :
    (m.clock.last < m.clock.now + timeout → m.wait n timeout s.feed = .error .untold) ∧
      (m.clock.now + timeout ≤ m.clock.last → m.room < n →
        m.wait n timeout s.feed = .error .crowded) ∧
      (m.clock.now + timeout ≤ m.clock.last → n ≤ m.room →
        ∃ outcome left, m.wait n timeout s.feed = .ok (outcome, left) ∧
          s.Settles n timeout outcome left) :=
  ⟨fun h => wait_untold h n s.feed, fun htold h => wait_crowded htold h s.feed,
    fun htold hroom => ⟨_, _, wait_eq_ok htold hroom s.feed, s.settles_wait n timeout htimeout⟩⟩

end Machine

/-- Two items in time, the second of a flow that failed, and one after the deadline of five. -/
def sampleSchedule : Schedule where
  sends := [(0, { tokenName := "first", consentId := "c-1" }),
    (3, { tokenName := "second", error := "status code 400" }),
    (7, { tokenName := "third", consentId := "c-3" })]
  closing := some 7
  sends_ordered := by decide
  closing_last := by decide

namespace Machine

/-- With room for three items, a wait for two of them finds that a flow failed, and one for three runs
out of time; a wait for four does not begin. -/
theorem sampleSchedule_waited :
    (5 : Nat) ≠ 0 ∧
      (∃ left, wait ⟨⟨10, 15⟩, 3⟩ 2 5 sampleSchedule.feed =
        .ok (.error (.flowsFailed ["second: status code 400"] (sampleSchedule.items.take 2)), left)) ∧
      (∃ left, wait ⟨⟨10, 15⟩, 3⟩ 3 5 sampleSchedule.feed =
        .ok (.error (.timeout 2 3 (sampleSchedule.items.take 2)), left)) ∧
      wait ⟨⟨10, 15⟩, 3⟩ 4 5 sampleSchedule.feed = .error .crowded := by
  have hends := fun n => wait_schedule ⟨⟨10, 15⟩, 3⟩ n 5 sampleSchedule (by decide)
  refine ⟨by decide, ?_, ?_, (hends 4).2.1 (by decide) (by decide)⟩
  · obtain ⟨outcome, left, hwait, hsettles⟩ := (hends 2).2.2 (by decide) (by decide)
    exact ⟨left, by rw [hwait, (hsettles.enough (by decide)).2.2 (by decide)]; rfl⟩
  · obtain ⟨outcome, left, hwait, hsettles⟩ := (hends 3).2.2 (by decide) (by decide)
    refine ⟨left, ?_⟩
    rw [hwait, hsettles.late (by decide) (by rintro ⟨c, hc, hlt⟩; cases hc; omega)]
    rfl

/-- On a machine with words of 64 bits, no wait for `2 ^ 60` items begins, though the channel is closed,
and none that would be given up after `2 ^ 63 - 1` seconds. -/
theorem wide_halts :
    (wide 1000000000).wait 1152921504606846976 1000000000 [(0, .closed)] = .error .crowded ∧
      (wide 1000000000).wait 1 (9223372036854775807 * 1000000000) [(0, .closed)] =
        .error .untold :=
  ⟨wait_crowded (by decide) (by decide) _, wait_untold (by decide) _ _⟩

end Machine

end Conformance
