import FunctionConsole.Proofs.Turn

/-!
# The loop of follow-ups

An update may name a message to be handled next, whose update may name another one: a key that
answers a question leads to the answer, and the answer to the change that was asked about. The loop
that handles them stops when no message waits, and nothing in it counts its rounds. Here it is
written down without a bound (`Loop.round`), each round with a look at the clock of its own, and
`Loop.stops_after_three` says that from every state three rounds are enough, whatever the message.

What carries the proof is the rank of the message that waits, which each round makes smaller
(`Loop.rank_round`). It needs no history, since a question holds nothing but a change, which leads
nowhere. The third round is needed for a yes to a question and for nothing else.
-/

namespace FunctionConsole.Console

/-- The loop between two rounds: the state, the calls that went out, and the message that waits. -/
structure Loop where
  console : Console
  calls : List Call := []
  waiting : Option Message

namespace Loop

/-- The message that waits is handled. With none waiting, the loop has stopped. -/
def round (l : Loop) (now : Moment) : Loop :=
  match l.waiting with
  | none => l
  | some m =>
    let (c, reply) := l.console.update now m
    { console := c, calls := l.calls ++ reply.calls, waiting := reply.next }

/-- Round after round, each at its moment. -/
def rounds (l : Loop) (moments : List Moment) : Loop := moments.foldl round l

/-- The loop with a message to begin with. -/
def of (c : Console) (m : Message) : Loop := { console := c, waiting := some m }

-- ==================================================== ranks

/-- How many rounds are left at most. -/
def rank (l : Loop) : Nat := l.waiting.elim 0 Message.rank

variable {l : Loop}

theorem rank_eq_zero : l.rank = 0 ↔ l.waiting = none := by
  unfold rank
  cases l.waiting with
  | none => simp
  | some m =>
      have hpos := rank_pos m
      simp only [Option.elim_some, reduceCtorEq, iff_false]
      omega

theorem round_of_stopped (h : l.waiting = none) (now : Moment) : l.round now = l := by
  rw [round, h]

theorem round_of_waiting {m : Message} (h : l.waiting = some m) (now : Moment) :
    l.round now =
      { console := (l.console.update now m).1
        calls := l.calls ++ (l.console.update now m).2.calls
        waiting := (l.console.update now m).2.next } := by
  rw [round, h]

/-- A round leaves fewer rounds to come. -/
theorem rank_round (l : Loop) (now : Moment) : (l.round now).rank ≤ l.rank - 1 := by
  cases hwaiting : l.waiting with
  | none =>
      have hrank := rank_eq_zero.mpr hwaiting
      rw [round_of_stopped hwaiting]
      omega
  | some m =>
      have hrank : l.rank = m.rank := by rw [rank, hwaiting]; rfl
      rw [round_of_waiting hwaiting, hrank, rank]
      cases hnext : (l.console.update now m).2.next with
      | none => exact Nat.zero_le _
      | some m' => exact Nat.le_sub_one_of_lt (update_next_rank hnext)

theorem rank_rounds (l : Loop) (moments : List Moment) :
    (l.rounds moments).rank ≤ l.rank - moments.length := by
  induction moments generalizing l with
  | nil => exact Nat.le_refl _
  | cons now moments ih =>
      have hround := rank_round l now
      have hrest := ih (l.round now)
      show ((l.round now).rounds moments).rank ≤ _
      rw [List.length_cons]
      omega

theorem rounds_of_stopped (h : l.waiting = none) (moments : List Moment) :
    l.rounds moments = l := by
  induction moments with
  | nil => rfl
  | cons now moments ih =>
      show (l.round now).rounds moments = l
      rw [round_of_stopped h, ih]

-- ==================================================== the third round

theorem eq_key_of_rank {m : Message} (h : 3 ≤ m.rank) : ∃ key, m = .key key := by
  cases m with
  | key key => exact ⟨key, rfl⟩
  | _ => exact absurd h (by simp [Message.rank])

/-- Two rounds leave a message waiting exactly if a question was answered with yes. -/
theorem waiting_after_two (c : Console) (m : Message) (first second : Moment) :
    ((of c m).rounds [first, second]).waiting ≠ none ↔
      ∃ key dialog, m = .key key ∧ key.isYes = true ∧ c.confirm = some dialog := by
  show (((of c m).round first).round second).waiting ≠ none ↔ _
  have hfirst : ((of c m).round first).waiting = (c.update first m).2.next := rfl
  have hsecond {m' : Message} (h : (c.update first m).2.next = some m') :
      (((of c m).round first).round second).waiting =
        ((c.update first m).1.update second m').2.next := by
    rw [round_of_waiting (hfirst.trans h)]
    rfl
  constructor
  · intro hwaiting
    cases hnext : (c.update first m).2.next with
    | none =>
        rw [round_of_stopped (hfirst.trans hnext), hfirst, hnext] at hwaiting
        exact absurd rfl hwaiting
    | some m' =>
        rw [hsecond hnext] at hwaiting
        obtain ⟨m'', hnext'⟩ := Option.ne_none_iff_exists'.mp hwaiting
        -- two messages follow, each of a smaller rank, so the first is a key and its rank falls to 2
        have hlt := update_next_rank hnext
        have hlt' := update_next_rank hnext'
        have hpos := rank_pos m''
        obtain ⟨key, rfl⟩ := eq_key_of_rank (show 3 ≤ m.rank by omega)
        rcases handleKey_next hnext with ⟨hkey, hasked, -⟩ | hrank
        · obtain ⟨dialog, hdialog⟩ := Option.isSome_iff_exists.mp hasked
          exact ⟨key, dialog, rfl, hkey, hdialog⟩
        · omega
  · rintro ⟨key, dialog, rfl, hkey, hdialog⟩
    have hyes : c.update first (.key key) = (c, .follow .confirmAccepted) :=
      update_yes hkey (by rw [hdialog]; rfl)
    have hnext : (c.update first (.key key)).2.next = some .confirmAccepted := by
      rw [hyes]
      rfl
    rw [hsecond hnext, hyes, update_accepted hdialog]
    exact nofun

-- ==================================================== the console's own processing

/-- Rounds at one moment are a chain of as many updates. -/
theorem rounds_replicate (now : Moment) (n : Nat) (c : Console) (m : Message) (calls : List Call) :
    (Loop.rounds ⟨c, calls, some m⟩ (List.replicate n now)).console = (chain now n c m).1 ∧
      (Loop.rounds ⟨c, calls, some m⟩ (List.replicate n now)).calls =
        calls ++ (chain now n c m).2 := by
  induction n generalizing c m calls with
  | zero => exact ⟨rfl, (List.append_nil calls).symm⟩
  | succ n ih =>
      show (Loop.rounds (Loop.round ⟨c, calls, some m⟩ now) _).console = _ ∧
        (Loop.rounds (Loop.round ⟨c, calls, some m⟩ now) _).calls = _
      rw [round_of_waiting rfl, chain_succ]
      cases hnext : (c.update now m).2.next with
      | none => rw [rounds_of_stopped rfl]; exact ⟨rfl, rfl⟩
      | some m' =>
          obtain ⟨hconsole, hcalls⟩ :=
            ih (c.update now m).1 m' (calls ++ (c.update now m).2.calls)
          refine ⟨hconsole, ?_⟩
          rw [hcalls, List.append_assoc]

/-- From every state and with every message the loop has stopped after three rounds, at whatever
moments these come. Two are not enough exactly if the message is a yes to a question that waits. So
the console may follow a message through three updates and be sure of having done what the loop
does. -/
theorem stops_after_three (c : Console) (m : Message) :
    (∀ moments : List Moment, 3 ≤ moments.length → ((of c m).rounds moments).waiting = none) ∧
      (∀ first second, ((of c m).rounds [first, second]).waiting ≠ none ↔
        ∃ key dialog, m = .key key ∧ key.isYes = true ∧ c.confirm = some dialog) ∧
      ∀ now, c.process now m =
        (((of c m).rounds [now, now, now]).console, ((of c m).rounds [now, now, now]).calls) := by
  refine ⟨?_, waiting_after_two c m, ?_⟩
  · intro moments hlength
    have hrank : (of c m).rank ≤ 3 := rank_le_longestChain m
    have hrounds := rank_rounds (of c m) moments
    exact rank_eq_zero.mp (by omega)
  · intro now
    obtain ⟨hconsole, hcalls⟩ := rounds_replicate now 3 c m []
    exact Prod.ext hconsole.symm hcalls.symm

end Loop

end FunctionConsole.Console
