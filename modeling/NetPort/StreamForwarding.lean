import Mathlib.Data.List.Infix
import Mathlib.Data.List.Range

/-! The four relay loops of server and client, from one source connection to the peers it is
paired with. Bytes are their positions in the source stream; what the loops read from the system
and from the other threads comes as input to each pass. -/
namespace StreamForwarding

inductive Errno where
  | eagain
  | other
  deriving DecidableEq, Repr

inductive SslError where
  | wantRead
  | wantWrite
  | zeroReturn
  | other
  deriving DecidableEq, Repr

/-- `SSL_write`: a count, or 0 or -1 with an error. -/
inductive SslWrite where
  | written (n : ℕ)
  | refused (minusOne : Bool) (error : SslError)
  deriving DecidableEq, Repr

/-- The `int` that `SSL_write` returns; -1 is `none`. -/
def SslWrite.result : SslWrite → Option ℕ
  | .written n => some n
  | .refused minusOne _ => if minusOne then none else some 0

structure Iteration where
  /-- `enable_output_ssl`, `enable_input_ssl` or `enable_ssl` -/
  enableSsl : Bool
  /-- the SSL pointer of the peer is not NULL -/
  sslObject : Bool
  sslWrite : SslWrite
  /-- -1 is `none` -/
  send : Option ℕ
  errno : Errno
  /-- `select` did not return -1 -/
  selected : Bool
  /-- `is_output_connected`, `is_input_connected`, `is_running_output` or `is_running_input`
  after the wait -/
  peerConnected : Bool
  closeOutputSocket : Bool
  /-- the same flag in the condition of the loop -/
  running : Bool
  deriving DecidableEq, Repr

structure Pass where
  accepted : ℕ
  leaves : Bool
  deriving DecidableEq, Repr

/-- `EAGAIN` waits; any other error is given up. -/
def afterError (i : Iteration) (stays : Bool) : Bool :=
  i.errno == .eagain && i.selected && stays

def serverPass (stays : Iteration → Bool) (i : Iteration) (remaining : ℕ) : Pass :=
  if i.enableSsl && !i.sslObject then ⟨0, true⟩
  else
    match if i.enableSsl then i.sslWrite.result else i.send with
    | some n => if remaining ≤ n then ⟨remaining, true⟩ else ⟨n, false⟩
    | none => ⟨0, !afterError i (stays i)⟩

def clientTook (i : Iteration) (remaining n : ℕ) : Pass :=
  if remaining ≤ n then ⟨remaining, true⟩ else ⟨n, !i.running⟩

def clientPass (i : Iteration) (remaining : ℕ) : Pass :=
  if i.enableSsl && i.sslObject then
    match i.sslWrite with
    | .written n => clientTook i remaining n
    | .refused _ .wantRead => ⟨0, !i.running⟩
    | .refused _ .wantWrite => ⟨0, !i.running⟩
    | .refused _ _ => ⟨0, true⟩
  else
    match i.send with
    | some n => clientTook i remaining n
    | none => ⟨0, !(afterError i i.peerConnected && i.running)⟩

inductive FailedWait where
  | sendsLast
  | drops
  deriving DecidableEq, Repr

inductive Relay where
  | connectionInputHandler
  | connectionOutputHandler
  | serverInputThread
  | serverOutputThread
  deriving DecidableEq, Repr

namespace Relay

def pass : Relay → Iteration → ℕ → Pass
  | connectionInputHandler => serverPass (·.peerConnected)
  | connectionOutputHandler => serverPass fun i => i.peerConnected && !i.closeOutputSocket
  | serverInputThread => clientPass
  | serverOutputThread => clientPass

/-- The server sends the chunk all the same, the client gives the connection up with it. -/
def failedWait : Relay → FailedWait
  | connectionInputHandler => .sendsLast
  | connectionOutputHandler => .sendsLast
  | serverInputThread => .drops
  | serverOutputThread => .drops

end Relay

/-- The send loop stands at a position of the chunk, which ends with the bytes read so far. -/
inductive Phase where
  | reading
  | sending (position : ℕ) (last : Bool)
  | ended
  deriving DecidableEq, Repr

structure Stream where
  read : ℕ
  phase : Phase
  /-- the positions that peers took, in their order -/
  accepted : List ℕ
  deriving DecidableEq, Repr

inductive Event where
  | chunk (length : ℕ) (waited : Bool)
  | pass (i : Iteration)
  | close
  deriving DecidableEq, Repr

def step (relay : Relay) (s : Stream) (e : Event) : Option Stream :=
  match s.phase, e with
  | .reading, .chunk length waited =>
    if length = 0 then none
    else if waited then some { s with read := s.read + length, phase := .sending s.read false }
    else
      match relay.failedWait with
      | .sendsLast => some { s with read := s.read + length, phase := .sending s.read true }
      | .drops => some { s with read := s.read + length, phase := .ended }
  | .sending position last, .pass i =>
    let p := relay.pass i (s.read - position)
    some { s with
      phase := if p.leaves then (if last then .ended else .reading)
        else .sending (position + p.accepted) last
      accepted := s.accepted ++ List.range' position p.accepted }
  | .reading, .close => some { s with phase := .ended }
  | _, _ => none

def fresh : Stream := ⟨0, .reading, []⟩

/-- Runs of a relay, with each event and the state it found. -/
inductive Run (relay : Relay) : List (Stream × Event) → Stream → Prop
  | start : Run relay [] fresh
  | step {log : List (Stream × Event)} {s t : Stream} {e : Event} (h : Run relay log s)
      (st : step relay s e = some t) : Run relay (log ++ [(s, e)]) t

def GapFree (s : Stream) : Prop := s.accepted <+: List.range s.read

instance (s : Stream) : Decidable (GapFree s) := inferInstanceAs (Decidable (_ <+: _))

/-! What makes a pass give up a remainder, and when the peer takes a byte. -/

def Unwritable (i : Iteration) (stays : Bool) : Prop :=
  i.errno = .other ∨ i.selected = false ∨ stays = false

def serverGivesUp (stays : Iteration → Bool) (i : Iteration) : Prop :=
  (i.enableSsl = true ∧ i.sslObject = false) ∨
    (if i.enableSsl then i.sslWrite.result else i.send) = none ∧ Unwritable i (stays i)

def clientGivesUp (i : Iteration) (remaining : ℕ) : Prop :=
  if i.enableSsl && i.sslObject then
    match i.sslWrite with
    | .written n => n < remaining ∧ i.running = false
    | .refused _ .wantRead => i.running = false
    | .refused _ .wantWrite => i.running = false
    | .refused _ _ => True
  else
    match i.send with
    | some n => n < remaining ∧ i.running = false
    | none => Unwritable i i.peerConnected ∨ i.running = false

def serverTakes (i : Iteration) : Prop :=
  (i.enableSsl = true → i.sslObject = true) ∧
    0 < (if i.enableSsl then i.sslWrite.result else i.send).getD 0

def clientTakes (i : Iteration) : Prop :=
  0 < (if i.enableSsl && i.sslObject then i.sslWrite.result else i.send).getD 0

namespace Relay

def GivesUp : Relay → Iteration → ℕ → Prop
  | connectionInputHandler, i, _ => serverGivesUp (·.peerConnected) i
  | connectionOutputHandler, i, _ =>
    serverGivesUp (fun i => i.peerConnected && !i.closeOutputSocket) i
  | serverInputThread, i, remaining => clientGivesUp i remaining
  | serverOutputThread, i, remaining => clientGivesUp i remaining

def Takes : Relay → Iteration → Prop
  | connectionInputHandler => serverTakes
  | connectionOutputHandler => serverTakes
  | serverInputThread => clientTakes
  | serverOutputThread => clientTakes

end Relay

structure PassSpec (p : Pass) (remaining : ℕ) (givesUp takes : Prop) : Prop where
  atMost : p.accepted ≤ remaining
  goesOn : p.leaves = false → p.accepted < remaining
  givesUp_iff : givesUp ↔ p.leaves = true ∧ p.accepted < remaining
  takes_iff : takes ↔ 0 < p.accepted

theorem afterError_eq_false (i : Iteration) (stays : Bool) :
    afterError i stays = false ↔ Unwritable i stays := by
  unfold afterError Unwritable
  cases i.errno <;> cases i.selected <;> cases stays <;> simp

/-- A write that takes something, at most the rest of the chunk. -/
theorem taken_spec {remaining : ℕ} (some_left : 0 < remaining) (n : ℕ) (leaves : Bool) :
    PassSpec (if remaining ≤ n then ⟨remaining, true⟩ else ⟨n, leaves⟩) remaining
      (n < remaining ∧ leaves = true) (0 < n) := by
  by_cases enough : remaining ≤ n
  · rw [if_pos enough]
    refine ⟨le_rfl, nofun, ?_, ?_⟩
    · exact ⟨fun h => absurd enough (by omega), fun h => absurd h.2 (lt_irrefl _)⟩
    · exact ⟨fun _ => some_left, fun _ => by omega⟩
  · rw [if_neg enough]
    have short : n < remaining := by omega
    exact ⟨short.le, fun _ => short, And.comm, Iff.rfl⟩

theorem refused_spec {remaining : ℕ} (some_left : 0 < remaining) (leaves : Bool) :
    PassSpec ⟨0, leaves⟩ remaining (leaves = true) False := by
  constructor <;> simp [some_left]

theorem PassSpec.congr {p : Pass} {remaining : ℕ} {givesUp givesUp' takes takes' : Prop}
    (h : PassSpec p remaining givesUp takes) (up : givesUp' ↔ givesUp) (take : takes' ↔ takes) :
    PassSpec p remaining givesUp' takes' :=
  ⟨h.atMost, h.goesOn, up.trans h.givesUp_iff, take.trans h.takes_iff⟩

theorem serverPass_spec (stays : Iteration → Bool) (i : Iteration) {remaining : ℕ}
    (some_left : 0 < remaining) :
    PassSpec (serverPass stays i remaining) remaining (serverGivesUp stays i) (serverTakes i) := by
  unfold serverPass serverGivesUp serverTakes
  rw [← afterError_eq_false]
  by_cases null : i.enableSsl = true ∧ i.sslObject = false
  · simp only [null, Bool.not_false, Bool.and_self, if_true]
    exact (refused_spec some_left true).congr (by simp) (by simp)
  · have object : (i.enableSsl && !i.sslObject) = false := by
      cases ssl : i.enableSsl <;> cases obj : i.sslObject <;> simp_all
    have ready : i.enableSsl = true → i.sslObject = true := by
      intro ssl
      cases obj : i.sslObject with
      | true => rfl
      | false => exact absurd ⟨ssl, obj⟩ null
    rw [object, if_neg (by simp)]
    cases result : (if i.enableSsl then i.sslWrite.result else i.send) with
    | none => exact (refused_spec some_left _).congr (by simp [null]) (by simp)
    | some n =>
      apply (taken_spec some_left n false).congr (by simp [null])
      exact ⟨fun h => h.2, fun h => ⟨ready, h⟩⟩

theorem clientPass_spec (i : Iteration) {remaining : ℕ} (some_left : 0 < remaining) :
    PassSpec (clientPass i remaining) remaining (clientGivesUp i remaining) (clientTakes i) := by
  unfold clientPass clientGivesUp clientTakes
  by_cases ssl : (i.enableSsl && i.sslObject) = true
  · simp only [ssl, if_true]
    cases i.sslWrite with
    | written n => exact (taken_spec some_left n _).congr (by simp) Iff.rfl
    | refused minusOne error =>
      have nothing : ¬ 0 < ((SslWrite.refused minusOne error).result).getD 0 := by
        cases minusOne <;> simp [SslWrite.result]
      cases error <;> exact (refused_spec some_left _).congr (by simp) (by simp [nothing])
  · simp only [ssl, if_false, Bool.false_eq_true]
    cases i.send with
    | some n => exact (taken_spec some_left n _).congr (by simp) Iff.rfl
    | none =>
      apply (refused_spec some_left _).congr
      · rw [← afterError_eq_false]
        cases afterError i i.peerConnected <;> simp
      · simp

theorem Relay.pass_spec (relay : Relay) (i : Iteration) {remaining : ℕ} (some_left : 0 < remaining) :
    PassSpec (relay.pass i remaining) remaining (relay.GivesUp i remaining) (relay.Takes i) := by
  cases relay with
  | connectionInputHandler => exact serverPass_spec _ i some_left
  | connectionOutputHandler =>
    exact serverPass_spec (fun i => i.peerConnected && !i.closeOutputSocket) i some_left
  | serverInputThread => exact clientPass_spec i some_left
  | serverOutputThread => exact clientPass_spec i some_left

/-! The events of a run, each with the state it found. -/

def GivesUp (relay : Relay) (e : Stream × Event) : Prop :=
  match e.1.phase, e.2 with
  | .sending position _, .pass i => relay.GivesUp i (e.1.read - position)
  | _, _ => False

def Takes (relay : Relay) (e : Stream × Event) : Prop :=
  match e.2 with
  | .pass i => relay.Takes i
  | _ => False

def StopsAfterGivingUp (relay : Relay) (log : List (Stream × Event)) : Prop :=
  log.Pairwise fun e f => GivesUp relay e → ¬ Takes relay f

variable {relay : Relay} {log : List (Stream × Event)} {s t : Stream} {e : Event}

structure Whole (relay : Relay) (log : List (Stream × Event)) (s : Stream) : Prop where
  kept : ∀ e ∈ log, ¬ GivesUp relay e
  accepted : s.accepted = List.range s.accepted.length
  inside : s.accepted.length ≤ s.read
  reading : s.phase = .reading → s.accepted.length = s.read
  sending : ∀ position last, s.phase = .sending position last →
    s.accepted.length = position ∧ position < s.read

/-- A remainder was left behind at `gap`, and only later bytes were taken since. -/
structure Gapped (relay : Relay) (log : List (Stream × Event)) (gap : ℕ) (later : List ℕ)
    (s : Stream) : Prop where
  accepted : s.accepted = List.range gap ++ later
  inside : gap ≤ s.read
  beyond : ∀ position ∈ later, gap < position
  reading : s.phase = .reading → gap < s.read
  sending : ∀ position last, s.phase = .sending position last → gap < position ∧ position < s.read
  gaveUp : ∃ e ∈ log, GivesUp relay e
  stops_iff : later = [] ↔ StopsAfterGivingUp relay log

theorem stops_append {entry : Stream × Event} (gaveUp : ∃ e ∈ log, GivesUp relay e) :
    StopsAfterGivingUp relay (log ++ [entry]) ↔
      StopsAfterGivingUp relay log ∧ ¬ Takes relay entry := by
  unfold StopsAfterGivingUp
  rw [List.pairwise_append]
  constructor
  · rintro ⟨before, _, last⟩
    obtain ⟨e, he, up⟩ := gaveUp
    exact ⟨before, last e he entry (by simp) up⟩
  · rintro ⟨before, last⟩
    refine ⟨before, by simp, ?_⟩
    intro e _ f hf _
    rw [List.mem_singleton.1 hf]
    exact last

theorem stops_of_kept (kept : ∀ e ∈ log, ¬ GivesUp relay e) : StopsAfterGivingUp relay log :=
  List.pairwise_of_forall_mem_list fun e he _ _ up => absurd up (kept e he)

theorem stops_of_kept_snoc {entry : Stream × Event} (kept : ∀ e ∈ log, ¬ GivesUp relay e) :
    StopsAfterGivingUp relay (log ++ [entry]) := by
  refine List.pairwise_append.2 ⟨stops_of_kept kept, by simp, ?_⟩
  exact fun e he _ _ up => absurd up (kept e he)

theorem forall_snoc {entry : Stream × Event} {p : Stream × Event → Prop} (h : ∀ e ∈ log, p e)
    (last : p entry) : ∀ e ∈ log ++ [entry], p e := by
  intro e he
  rcases List.mem_append.1 he with old | new
  · exact h e old
  · rw [List.mem_singleton.1 new]
    exact last

theorem step_pass {position : ℕ} {last : Bool} {i : Iteration}
    (phase : s.phase = .sending position last) (st : step relay s (.pass i) = some t) :
    t.read = s.read ∧
      t.accepted = s.accepted ++
        List.range' position (relay.pass i (s.read - position)).accepted ∧
      t.phase = if (relay.pass i (s.read - position)).leaves then (if last then .ended else .reading)
        else .sending (position + (relay.pass i (s.read - position)).accepted) last := by
  simp only [step, phase] at st
  cases st
  exact ⟨rfl, rfl, rfl⟩

theorem sends_of_pass {position q : ℕ} {last last' : Bool} {i : Iteration}
    (phase : s.phase = .sending position last) (st : step relay s (.pass i) = some t)
    (sending : t.phase = .sending q last') :
    (relay.pass i (s.read - position)).leaves = false ∧
      position + (relay.pass i (s.read - position)).accepted = q := by
  rw [(step_pass phase st).2.2] at sending
  cases leaves : (relay.pass i (s.read - position)).leaves with
  | true =>
    rw [if_pos leaves] at sending
    cases last <;> simp at sending
  | false =>
    simp only [leaves, Bool.false_eq_true, if_false, Phase.sending.injEq] at sending
    exact ⟨rfl, sending.1⟩

theorem range_append_range' (k n : ℕ) : List.range k ++ List.range' k n = List.range (k + n) := by
  rw [List.range_eq_range', List.range_eq_range']
  simpa using @List.range'_append 0 k n 1

theorem Whole.pass {position : ℕ} {last : Bool} {i : Iteration} (h : Whole relay log s)
    (phase : s.phase = .sending position last) (st : step relay s (.pass i) = some t) :
    Whole relay (log ++ [(s, .pass i)]) t ∨
      ∃ gap, Gapped relay (log ++ [(s, .pass i)]) gap [] t := by
  obtain ⟨length, inside⟩ := h.sending position last phase
  have some_left : 0 < s.read - position := by omega
  have spec := relay.pass_spec i some_left
  obtain ⟨read, accepted, next⟩ := step_pass phase st
  set p := relay.pass i (s.read - position) with hp
  have taken : t.accepted = List.range (position + p.accepted) := by
    rw [accepted, h.accepted, length, range_append_range']
  have count : t.accepted.length = position + p.accepted := by rw [taken, List.length_range]
  have atMost := spec.atMost
  by_cases up : relay.GivesUp i (s.read - position)
  · right
    obtain ⟨leaves, short⟩ := spec.givesUp_iff.1 up
    refine ⟨position + p.accepted, by rw [taken, List.append_nil], by omega, by simp, ?_, ?_, ?_, ?_⟩
    · intro _
      omega
    · intro q last' sending
      have stays := (sends_of_pass phase st sending).1
      rw [leaves] at stays
      cases stays
    · exact ⟨(s, .pass i), by simp, by simpa [GivesUp, phase] using up⟩
    · exact ⟨fun _ => stops_of_kept_snoc h.kept, fun _ => rfl⟩
  · left
    have kept : ∀ e ∈ log ++ [(s, Event.pass i)], ¬ GivesUp relay e :=
      forall_snoc h.kept (by simpa [GivesUp, phase] using up)
    have whole : p.leaves = true → position + p.accepted = s.read := by
      intro leaves
      have full : ¬ p.accepted < s.read - position := fun short =>
        up (spec.givesUp_iff.2 ⟨leaves, short⟩)
      omega
    refine ⟨kept, by rw [count, taken], by omega, ?_, ?_⟩
    · intro reading
      have leaves : p.leaves = true := by
        cases leaves : p.leaves with
        | true => rfl
        | false => simp [next, leaves] at reading
      have := whole leaves
      omega
    · intro q last' sending
      obtain ⟨leaves, same⟩ := sends_of_pass phase st sending
      rw [← hp] at leaves same
      have short := spec.goesOn leaves
      omega

theorem Gapped.pass {gap position : ℕ} {later : List ℕ} {last : Bool} {i : Iteration}
    (h : Gapped relay log gap later s) (phase : s.phase = .sending position last)
    (st : step relay s (.pass i) = some t) :
    ∃ later, Gapped relay (log ++ [(s, .pass i)]) gap later t := by
  obtain ⟨before, inside⟩ := h.sending position last phase
  have some_left : 0 < s.read - position := by omega
  have spec := relay.pass_spec i some_left
  obtain ⟨read, accepted, next⟩ := step_pass phase st
  set p := relay.pass i (s.read - position) with hp
  refine ⟨later ++ List.range' position p.accepted, ?_, by omega, ?_, ?_, ?_, ?_, ?_⟩
  · rw [accepted, h.accepted, List.append_assoc]
  · intro q hq
    rcases List.mem_append.1 hq with old | new
    · exact h.beyond q old
    · have := (List.mem_range'_1.1 new).1
      omega
  · intro _
    omega
  · intro q last' sending
    obtain ⟨leaves, same⟩ := sends_of_pass phase st sending
    rw [← hp] at leaves same
    have short := spec.goesOn leaves
    omega
  · obtain ⟨e, he, up⟩ := h.gaveUp
    exact ⟨e, List.mem_append_left _ he, up⟩
  · rw [List.append_eq_nil_iff, h.stops_iff, stops_append h.gaveUp]
    have takes : Takes relay (s, .pass i) ↔ 0 < p.accepted := spec.takes_iff
    rw [takes, List.range'_eq_nil_iff]
    exact and_congr_right fun _ => by omega

/-- What an event other than a pass does: the stream grows or ends, and nothing is taken. -/
theorem step_other (st : step relay s e = some t) (other : ∀ i, e ≠ .pass i) :
    s.phase = .reading ∧ t.accepted = s.accepted ∧ s.read ≤ t.read ∧
      (t.phase = .ended ∨ ∃ last, t.phase = .sending s.read last ∧ s.read < t.read) := by
  unfold step at st
  split at st
  · rename_i length waited phase
    refine ⟨phase, ?_⟩
    split at st
    · exact absurd st (by simp)
    · rename_i nonempty
      split at st
      · cases st
        exact ⟨rfl, by simp, .inr ⟨false, rfl, by simp; omega⟩⟩
      · split at st
        · cases st
          exact ⟨rfl, by simp, .inr ⟨true, rfl, by simp; omega⟩⟩
        · cases st
          exact ⟨rfl, by simp, .inl rfl⟩
  · exact absurd rfl (other _)
  · rename_i phase
    cases st
    exact ⟨phase, rfl, le_rfl, .inl rfl⟩
  · exact absurd st (by simp)

theorem not_gives_up_of_reading (phase : s.phase = .reading) : ¬ GivesUp relay (s, e) := by
  simp [GivesUp, phase]

theorem not_takes_of_other (other : ∀ i, e ≠ .pass i) : ¬ Takes relay (s, e) := by
  cases e with
  | pass i => exact absurd rfl (other i)
  | _ => exact id

theorem Whole.other (h : Whole relay log s) (st : step relay s e = some t)
    (other : ∀ i, e ≠ .pass i) : Whole relay (log ++ [(s, e)]) t := by
  obtain ⟨phase, accepted, read, next⟩ := step_other st other
  have count := h.reading phase
  refine ⟨forall_snoc h.kept (not_gives_up_of_reading phase), ?_, ?_, ?_, ?_⟩
  · rw [accepted]
    exact h.accepted
  · rw [accepted]
    omega
  · intro reading
    rcases next with ended | ⟨last, sending, _⟩
    · simp [ended] at reading
    · simp [sending] at reading
  · intro position last' sending'
    rcases next with ended | ⟨last, sending, grown⟩
    · simp [ended] at sending'
    · rw [sending] at sending'
      cases sending'
      rw [accepted]
      exact ⟨count, grown⟩

theorem Gapped.other {gap : ℕ} {later : List ℕ} (h : Gapped relay log gap later s)
    (st : step relay s e = some t) (other : ∀ i, e ≠ .pass i) :
    Gapped relay (log ++ [(s, e)]) gap later t := by
  obtain ⟨phase, accepted, read, next⟩ := step_other st other
  have before := h.reading phase
  refine ⟨accepted.trans h.accepted, by omega, h.beyond, fun _ => by omega, ?_, ?_, ?_⟩
  · intro position last' sending'
    rcases next with ended | ⟨last, sending, grown⟩
    · simp [ended] at sending'
    · rw [sending] at sending'
      cases sending'
      exact ⟨before, grown⟩
  · obtain ⟨e, he, up⟩ := h.gaveUp
    exact ⟨e, List.mem_append_left _ he, up⟩
  · rw [stops_append h.gaveUp]
    simp [not_takes_of_other other, h.stops_iff]

theorem Run.whole_or_gapped (run : Run relay log s) :
    Whole relay log s ∨ ∃ gap later, Gapped relay log gap later s := by
  induction run with
  | start =>
    have waiting (p : ℕ) (l : Bool) : fresh.phase ≠ .sending p l := by simp [fresh]
    exact .inl ⟨by simp, rfl, le_rfl, fun _ => rfl, fun p l sending => absurd sending (waiting p l)⟩
  | @step log s t e _ st ih =>
    by_cases passes : ∃ i, e = .pass i
    · obtain ⟨i, rfl⟩ := passes
      obtain ⟨position, last, phase⟩ : ∃ position last, s.phase = .sending position last := by
        cases phase : s.phase with
        | sending position last => exact ⟨position, last, rfl⟩
        | _ => simp [StreamForwarding.step, phase] at st
      rcases ih with whole | ⟨gap, later, gapped⟩
      · rcases whole.pass phase st with whole | ⟨gap, gapped⟩
        · exact .inl whole
        · exact .inr ⟨gap, [], gapped⟩
      · obtain ⟨later, gapped⟩ := gapped.pass phase st
        exact .inr ⟨gap, later, gapped⟩
    · have other : ∀ i, e ≠ .pass i := fun i he => passes ⟨i, he⟩
      rcases ih with whole | ⟨gap, later, gapped⟩
      · exact .inl (whole.other st other)
      · exact .inr ⟨gap, later, gapped.other st other⟩

theorem range_prefix {k n : ℕ} (h : k ≤ n) : List.range k <+: List.range n := by
  obtain ⟨m, rfl⟩ := Nat.exists_eq_add_of_le h
  exact ⟨_, range_append_range' k m⟩

theorem prefix_gap_iff {gap n : ℕ} {later : List ℕ} (inside : gap ≤ n)
    (beyond : ∀ position ∈ later, gap < position) :
    List.range gap ++ later <+: List.range n ↔ later = [] := by
  constructor
  · intro isPrefix
    cases later with
    | nil => rfl
    | cons q later =>
      have next : (List.range n)[gap]? = some q := by
        obtain ⟨rest, whole⟩ := isPrefix
        rw [← whole]
        simp
      have := beyond q (by simp)
      obtain ⟨_, same⟩ := List.getElem?_eq_some_iff.1 next
      simp at same
      omega
  · rintro rfl
    rw [List.append_nil]
    exact range_prefix inside

theorem gap_free_iff_stops (run : Run relay log s) : GapFree s ↔ StopsAfterGivingUp relay log := by
  rcases run.whole_or_gapped with whole | ⟨gap, later, gapped⟩
  · have free : GapFree s := by
      rw [GapFree, whole.accepted]
      exact range_prefix whole.inside
    exact ⟨fun _ => stops_of_kept whole.kept, fun _ => free⟩
  · rw [GapFree, gapped.accepted, prefix_gap_iff gapped.inside gapped.beyond, gapped.stops_iff]

/-- A plain `send` while the peer is connected; an error is not `EAGAIN`. -/
def plainSend (outcome : Option ℕ) : Event :=
  .pass { enableSsl := false, sslObject := false, sslWrite := .written 0, send := outcome,
          errno := .other, selected := true, peerConnected := true, closeOutputSocket := false,
          running := true }

def follow (relay : Relay) (log : List (Stream × Event)) (s : Stream) :
    List Event → Option (List (Stream × Event) × Stream)
  | [] => some (log, s)
  | e :: events =>
    match step relay s e with
    | none => none
    | some t => follow relay (log ++ [(s, e)]) t events

theorem run_follow {events : List Event} {log' : List (Stream × Event)} (run : Run relay log s)
    (h : follow relay log s events = some (log', t)) : Run relay log' t := by
  induction events generalizing log s with
  | nil =>
    cases h
    exact run
  | cons e events ih =>
    simp only [follow] at h
    split at h
    · exact absurd h (by simp)
    · rename_i u st
      exact ih (run.step st) h

def twoChunks : List (Stream × Event) :=
  [(fresh, .chunk 3 true), (⟨3, .sending 0 false, []⟩, plainSend (some 1)),
    (⟨3, .sending 1 false, [0]⟩, plainSend (some 2)), (⟨3, .reading, [0, 1, 2]⟩, .chunk 2 true),
    (⟨5, .sending 3 false, [0, 1, 2]⟩, plainSend (some 2))]

theorem gap_free_after_partial_write : GapFree ⟨5, .reading, [0, 1, 2, 3, 4]⟩ := by
  have followed : follow .connectionInputHandler [] fresh (twoChunks.map (·.2)) =
      some (twoChunks, ⟨5, .reading, [0, 1, 2, 3, 4]⟩) := rfl
  refine (gap_free_iff_stops (run_follow .start followed)).2 (stops_of_kept ?_)
  simp [twoChunks, GivesUp, Relay.GivesUp, serverGivesUp, plainSend, fresh]

namespace Counterexample

/-- The first two bytes are lost, the third and fourth are delivered. -/
theorem lost_chunk_skipped :
    ∃ log s, Run .connectionInputHandler log s ∧ s.accepted = [2, 3] ∧ ¬ GapFree s := by
  have followed : follow .connectionInputHandler [] fresh [.chunk 2 true, plainSend none,
      .chunk 2 true, plainSend (some 2)] = some (_, _) := rfl
  exact ⟨_, _, run_follow .start followed, rfl, by decide⟩

end Counterexample

end StreamForwarding
