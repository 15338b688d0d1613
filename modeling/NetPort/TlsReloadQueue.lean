import Mathlib.Data.List.TakeWhile
import NetPort.BoundedSets
import NetPort.DeviceManager

/-! The queue of devices whose TLS settings are to be reloaded: rows of bytes that end at their
first zero, and a count of the rows in use. It is a set of device ids with room for 128. -/
namespace TlsReloadQueue

open BoundedSets

def deviceIdMaxLen : ℕ := 64

def tlsReloadPendingMax : ℕ := 128

structure CString where
  chars : List UInt8
  noNul : 0 ∉ chars
  deriving DecidableEq

/-- `strncpy(dst, src, n)`: the text cut off at `n`, zeros up to there. -/
def strncpy (dst : List UInt8) (src : CString) (n : ℕ) : List UInt8 :=
  src.chars.take n ++ List.replicate (n - src.chars.length) 0 ++ dst.drop n

/-- A `char[DEVICE_ID_MAX_LEN + 1]` that is terminated. -/
structure Row where
  bytes : List UInt8
  length : bytes.length = deviceIdMaxLen + 1
  terminated : bytes[deviceIdMaxLen]? = some 0

def Row.zero : Row :=
  { bytes := List.replicate (deviceIdMaxLen + 1) 0, length := by simp, terminated := by decide }

def Row.text (row : Row) : CString :=
  { chars := row.bytes.takeWhile (· ≠ 0)
    noNul := fun h => by simpa using List.mem_takeWhile_imp h }

theorem strncpy_length {dst : List UInt8} {src : CString} {n : ℕ} (h : n ≤ dst.length) :
    (strncpy dst src n).length = dst.length := by
  simp [strncpy]
  omega

theorem strncpy_of_fits {dst : List UInt8} {src : CString} {n : ℕ} (h : src.chars.length ≤ n) :
    strncpy dst src n = src.chars ++ (List.replicate (n - src.chars.length) 0 ++ dst.drop n) := by
  rw [strncpy, List.take_of_length_le h, List.append_assoc]

def Row.copy (row : Row) (src : CString) : Row :=
  { bytes := (strncpy row.bytes src deviceIdMaxLen).set deviceIdMaxLen 0
    length := by
      have fits : deviceIdMaxLen ≤ row.bytes.length := by have := row.length; omega
      rw [List.length_set, strncpy_length fits, row.length]
    terminated := by
      have fits : deviceIdMaxLen ≤ row.bytes.length := by have := row.length; omega
      have long : (strncpy row.bytes src deviceIdMaxLen).length = row.bytes.length :=
        strncpy_length fits
      rw [row.length] at long
      simp [long] }

structure Queue where
  pending : List Row
  count : ℕ
  length : pending.length = tlsReloadPendingMax
  bounded : count ≤ tlsReloadPendingMax

def Queue.initial : Queue :=
  { pending := List.replicate tlsReloadPendingMax Row.zero, count := 0, length := by simp
    bounded := by decide }

def Queue.row (q : Queue) (i : ℕ) : Row := q.pending.getD i Row.zero

/-- The first row in use with which `strcmp` finds no difference. -/
def Queue.find (q : Queue) (deviceId : CString) : Option ℕ :=
  (q.pending.take q.count).findIdx? fun row => row.text == deviceId

def Queue.copyTo (q : Queue) (i : ℕ) (src : CString) : Queue :=
  { q with pending := q.pending.set i ((q.row i).copy src), length := by simp [q.length] }

/-- `device_manager_set_tls_reload_pending`; `none` is a null pointer. -/
def Queue.setTlsReloadPending (q : Queue) : Option CString → Queue
  | none => q
  | some deviceId =>
    if deviceId.chars = [] then q
    else match q.find deviceId with
      | some _ => q
      | none =>
        if room : q.count < tlsReloadPendingMax then
          { q.copyTo q.count deviceId with count := q.count + 1, bounded := room }
        else q

/-- `device_manager_consume_tls_reload_pending`. -/
def Queue.consumeTlsReloadPending (q : Queue) : Option CString → Queue × Bool
  | none => (q, false)
  | some deviceId =>
    match q.find deviceId with
    | none => (q, false)
    | some i =>
      let moved := if i < q.count - 1 then q.copyTo i (q.row (q.count - 1)).text else q
      ({ moved with count := q.count - 1, bounded := (Nat.sub_le _ _).trans q.bounded }, true)

def Queue.held (q : Queue) : List CString := (q.pending.take q.count).map Row.text

structure DeviceId extends CString where
  nonempty : chars ≠ []
  fits : chars.length ≤ deviceIdMaxLen
  deriving DecidableEq

section Texts

variable {q : Queue} {row : Row} {src : CString} {i : ℕ}

theorem Row.text_length : row.text.chars.length ≤ deviceIdMaxLen := by
  by_contra long
  have inside : deviceIdMaxLen < row.text.chars.length := by omega
  have same : row.text.chars[deviceIdMaxLen]? = row.bytes[deviceIdMaxLen]? := by
    rw [List.getElem?_eq_getElem inside]
    exact (List.prefix_iff_getElem?.1 (List.takeWhile_prefix _) _ inside).symm
  rw [row.terminated] at same
  exact row.text.noNul (List.mem_of_getElem? same)

/-- A text is read back where it stands at the start and a zero follows. -/
theorem takeWhile_of_terminated {bytes : List UInt8}
    (start : bytes.take src.chars.length = src.chars)
    (stop : bytes[src.chars.length]? = some 0) : bytes.takeWhile (· ≠ 0) = src.chars := by
  obtain ⟨inside, zero⟩ := List.getElem?_eq_some_iff.1 stop
  have split : bytes = src.chars ++ 0 :: bytes.drop (src.chars.length + 1) := by
    conv_lhs => rw [← List.take_append_drop src.chars.length bytes, start,
      List.drop_eq_getElem_cons inside, zero]
  have apart : ∀ c ∈ src.chars, decide (c ≠ 0) = true := fun c hc =>
    decide_eq_true fun same => src.noNul (same ▸ hc)
  rw [split, List.takeWhile_append_of_pos apart]
  simp

theorem Row.text_copy (fits : src.chars.length ≤ deviceIdMaxLen) : (row.copy src).text = src := by
  have start : (row.copy src).bytes.take src.chars.length = src.chars := by
    simp only [copy]
    rw [List.take_set_of_le fits, strncpy_of_fits fits, List.take_left]
  have stop : (row.copy src).bytes[src.chars.length]? = some 0 := by
    by_cases full : src.chars.length = deviceIdMaxLen
    · rw [full]
      exact (row.copy src).terminated
    · have short : src.chars.length < deviceIdMaxLen := by omega
      have apart : deviceIdMaxLen ≠ src.chars.length := by omega
      simp only [copy, List.getElem?_set_ne apart]
      rw [strncpy_of_fits fits, List.getElem?_append_right le_rfl, Nat.sub_self]
      have padded :
          0 < (List.replicate (deviceIdMaxLen - src.chars.length) (0 : UInt8)).length := by
        rw [List.length_replicate]
        omega
      rw [List.getElem?_append_left padded, List.getElem?_replicate_of_lt (by omega)]
  simp only [text, takeWhile_of_terminated start stop]

def Queue.texts (q : Queue) : List CString := q.pending.map Row.text

@[simp] theorem Queue.texts_length : q.texts.length = tlsReloadPendingMax := by
  simp [texts, q.length]

theorem Queue.held_eq : q.held = q.texts.take q.count := List.map_take

@[simp] theorem Queue.held_length : q.held.length = q.count := by
  rw [held_eq, List.length_take, texts_length, Nat.min_eq_left q.bounded]

theorem Queue.find_eq {deviceId : CString} :
    q.find deviceId = q.held.findIdx? (· == deviceId) := by
  rw [held, List.findIdx?_map]
  rfl

theorem Queue.texts_copyTo (fits : src.chars.length ≤ deviceIdMaxLen) :
    (q.copyTo i src).texts = q.texts.set i src := by
  simp [texts, copyTo, List.map_set, Row.text_copy fits]

theorem Queue.row_text (inside : i < tlsReloadPendingMax) :
    q.texts[i]? = some (q.row i).text := by
  have here : i < q.pending.length := by rwa [q.length]
  simp [texts, row, here]

theorem Queue.find_of_mem (h : src ∈ q.held) : ∃ i, q.find src = some i := by
  rw [← Option.isSome_iff_exists, find_eq, List.findIdx?_isSome]
  simpa using h

theorem Queue.find_of_not_mem (h : src ∉ q.held) : q.find src = none := by
  rw [find_eq, List.findIdx?_eq_none_iff]
  intro text inQueue
  have apart : text ≠ src := fun same => h (same ▸ inQueue)
  simpa using apart

theorem Queue.set_of_mem (h : src ∈ q.held) : q.setTlsReloadPending (some src) = q := by
  obtain ⟨i, found⟩ := find_of_mem h
  simp [setTlsReloadPending, found]

theorem Queue.set_of_full (h : q.count = tlsReloadPendingMax) :
    q.setTlsReloadPending (some src) = q := by
  have full : ¬ q.count < tlsReloadPendingMax := by omega
  simp only [setTlsReloadPending, full, dif_neg, not_false_eq_true]
  split
  · rfl
  · split <;> rfl

theorem Queue.held_set (nonempty : src.chars ≠ []) (fits : src.chars.length ≤ deviceIdMaxLen) :
    (q.setTlsReloadPending (some src)).held = pushIfNew tlsReloadPendingMax src q.held := by
  by_cases here : src ∈ q.held
  · rw [set_of_mem here, pushIfNew, if_pos here]
  · by_cases room : q.count < tlsReloadPendingMax
    · have added : q.setTlsReloadPending (some src) =
          { q.copyTo q.count src with count := q.count + 1, bounded := room } := by
        simp [setTlsReloadPending, nonempty, find_of_not_mem here, room]
      have texts : (q.setTlsReloadPending (some src)).texts = q.texts.set q.count src := by
        rw [added]
        exact texts_copyTo fits
      have count : (q.setTlsReloadPending (some src)).count = q.count + 1 := by rw [added]
      have inside : q.count < (q.texts.set q.count src).length := by simpa using room
      have last : (q.texts.set q.count src)[q.count] = src := List.getElem_set_self inside
      rw [held_eq, texts, count, List.take_add_one, List.take_set_of_le le_rfl, ← held_eq,
        List.getElem?_eq_getElem inside, last, pushIfNew, if_neg here, held_length, if_pos room]
      rfl
    · have full : q.count = tlsReloadPendingMax := by have := q.bounded; omega
      rw [set_of_full full, pushIfNew_full (by rw [held_length, full])]

theorem Queue.last_held (some_used : 0 < q.count) :
    q.held.getLastD src = (q.row (q.count - 1)).text := by
  have inside : q.count - 1 < q.count := by omega
  have room : q.count - 1 < tlsReloadPendingMax := by have := q.bounded; omega
  rw [List.getLastD_eq_getLast?, List.getLast?_eq_getElem?, held_length, held_eq,
    List.getElem?_take_of_lt inside, row_text room]
  rfl

theorem Queue.held_consume :
    (q.consumeTlsReloadPending (some src)).1.held = (swapOut src q.held).1 := by
  by_cases here : src ∈ q.held
  · obtain ⟨i, found⟩ := find_of_mem here
    have used : i < q.count := by
      rw [find_eq] at found
      obtain ⟨inside, _⟩ := List.findIdx?_eq_some_iff_getElem.1 found
      simpa using inside
    have left : (swapOut src q.held).1 =
        (q.texts.take (q.count - 1)).set i (q.row (q.count - 1)).text := by
      rw [find_eq] at found
      simp only [swapOut, found]
      rw [last_held (by omega), List.dropLast_eq_take, List.length_set, held_length, List.take_set,
        held_eq, List.take_take, Nat.min_eq_left (by omega)]
    have count : (q.consumeTlsReloadPending (some src)).1.count = q.count - 1 := by
      simp [consumeTlsReloadPending, found]
    rw [left, held_eq, count]
    by_cases before : i < q.count - 1
    · have texts : (q.consumeTlsReloadPending (some src)).1.texts =
          q.texts.set i (q.row (q.count - 1)).text := by
        simp only [consumeTlsReloadPending, found, before, if_true]
        exact texts_copyTo Row.text_length
      rw [texts, List.take_set]
    · have texts : (q.consumeTlsReloadPending (some src)).1.texts = q.texts := by
        simp only [consumeTlsReloadPending, found, before, if_false]
        rfl
      -- the consumed row is the last one, it is only left out
      have beyond : (q.texts.take (q.count - 1)).length ≤ i := by
        rw [List.length_take]
        omega
      rw [texts, List.set_eq_of_length_le beyond]
  · have absent := find_of_not_mem here
    simp only [consumeTlsReloadPending, absent]
    rw [find_eq] at absent
    rw [swapOut, absent]

theorem Queue.answer_consume :
    (q.consumeTlsReloadPending (some src)).2 = decide (src ∈ q.held) := by
  by_cases here : src ∈ q.held
  · obtain ⟨i, found⟩ := find_of_mem here
    simp [consumeTlsReloadPending, found, here]
  · simp [consumeTlsReloadPending, find_of_not_mem here, here]

end Texts

section Runs

def Queue.next (q : Queue) : Op DeviceId → Queue
  | .put deviceId => q.setTlsReloadPending (some deviceId.toCString)
  | .take deviceId => (q.consumeTlsReloadPending (some deviceId.toCString)).1

def Queue.after (ops : List (Op DeviceId)) : Queue := ops.foldl Queue.next Queue.initial

def pendingSet (ops : List (Op DeviceId)) : BoundedSet CString tlsReloadPendingMax :=
  BoundedSet.empty.run (ops.map (Op.map DeviceId.toCString))

variable {q : Queue} {s : BoundedSet CString tlsReloadPendingMax} {op : Op DeviceId}
  {ops : List (Op DeviceId)}

theorem DeviceId.toCString_injective : Function.Injective DeviceId.toCString := by
  rintro ⟨text, _, _⟩ ⟨text', _, _⟩ same
  cases same
  rfl

@[simp] theorem Queue.after_append {rest : List (Op DeviceId)} :
    Queue.after (ops ++ rest) = rest.foldl Queue.next (Queue.after ops) := List.foldl_append

theorem Queue.represents_next (h : Represents q.held s) :
    Represents (q.next op).held (s.next (op.map DeviceId.toCString)) := by
  cases op with
  | put deviceId =>
    have pushed := q.held_set deviceId.nonempty deviceId.fits
    simp only [next, Op.map, BoundedSet.next, pushed]
    exact h.put
  | take deviceId =>
    simp only [next, Op.map, BoundedSet.next, held_consume]
    exact h.take

theorem Queue.represents_run (h : Represents q.held s) :
    Represents (ops.foldl Queue.next q).held (s.run (ops.map (Op.map DeviceId.toCString))) := by
  induction ops generalizing q s with
  | nil => exact h
  | cons op ops ih => exact ih (represents_next h)

theorem Queue.after_represents (ops : List (Op DeviceId)) :
    Represents (Queue.after ops).held (pendingSet ops) :=
  represents_run Represents.empty

theorem Queue.after_answers (ops : List (Op DeviceId)) (deviceId : DeviceId) :
    ((Queue.after ops).consumeTlsReloadPending (some deviceId.toCString)).2 =
      decide (deviceId.toCString ∈ (pendingSet ops).members) := by
  rw [answer_consume]
  exact decide_eq_decide.2 (after_represents ops).mem_iff

/-- The queue is a set with room for 128: an id that was set with room is pending until it is
consumed and then away until it is set again, a consume leaves the other ids, and where the queue
is full a set leaves all of them. -/
theorem queue_is_bounded_set :
    (∀ ops : List (Op DeviceId), (Queue.after ops).held.Nodup ∧
      (Queue.after ops).held.toFinset = (pendingSet ops).members ∧
      ∀ deviceId : DeviceId,
        ((Queue.after ops).consumeTlsReloadPending (some deviceId.toCString)).2 =
          decide (deviceId.toCString ∈ (pendingSet ops).members)) ∧
    (∀ (earlier waiting : List (Op DeviceId)) (deviceId : DeviceId),
      (Queue.after earlier).count < tlsReloadPendingMax →
      (∀ op ∈ waiting, op ≠ .take deviceId) →
      ((Queue.after (earlier ++ .put deviceId :: waiting)).consumeTlsReloadPending
        (some deviceId.toCString)).2 = true ∧
      ∀ rest : List (Op DeviceId), (∀ op ∈ rest, op ≠ .put deviceId) →
        ((Queue.after (earlier ++ .put deviceId :: waiting ++ .take deviceId :: rest)
          ).consumeTlsReloadPending (some deviceId.toCString)).2 = false) ∧
    (∀ (ops : List (Op DeviceId)) (deviceId : DeviceId) (other : CString),
      other ≠ deviceId.toCString →
      (Queue.after (ops ++ [Op.take deviceId])).held.count other =
        (Queue.after ops).held.count other) ∧
    ∀ (ops : List (Op DeviceId)) (deviceId : DeviceId),
      (Queue.after ops).count = tlsReloadPendingMax →
      (Queue.after (ops ++ [Op.put deviceId])).held = (Queue.after ops).held := by
  refine ⟨fun ops => ?_, fun earlier waiting deviceId room kept => ⟨?_, fun rest away => ?_⟩,
    fun ops deviceId other apart => ?_, fun ops deviceId full => ?_⟩
  · have set := Queue.after_represents ops
    exact ⟨set.nodup, set.members, Queue.after_answers ops⟩
  · rw [Queue.after_answers]
    have space : (pendingSet earlier).members.card < tlsReloadPendingMax := by
      rw [← (Queue.after_represents earlier).length, Queue.held_length]
      exact room
    have still := Op.map_ne DeviceId.toCString_injective kept
    have here := BoundedSet.mem_of_put space still
    simpa [pendingSet, Op.map, BoundedSet.next] using here
  · rw [Queue.after_answers]
    have never := Op.map_ne DeviceId.toCString_injective away
    have gone := BoundedSet.not_mem_of_take
      (s := pendingSet (earlier ++ .put deviceId :: waiting)) never
    simpa [pendingSet, Op.map, BoundedSet.next] using gone
  · rw [Queue.after_append]
    simp only [List.foldl_cons, List.foldl_nil, Queue.next, Queue.held_consume]
    exact count_swapOut apart
  · rw [Queue.after_append]
    simp only [List.foldl_cons, List.foldl_nil, Queue.next, Queue.set_of_full full]

def longestId : DeviceId :=
  { chars := List.replicate deviceIdMaxLen 97, noNul := by decide, nonempty := by decide
    fits := by decide }

theorem set_twice_consumed_once :
    ((Queue.after [.put longestId, .put longestId]).consumeTlsReloadPending
      (some longestId.toCString)).2 = true ∧
    ((Queue.after [.put longestId, .put longestId, .take longestId]).consumeTlsReloadPending
      (some longestId.toCString)).2 = false := by
  have pending := queue_is_bounded_set.2.1 [] [.put longestId] longestId (by decide) (by decide)
  exact ⟨pending.1, pending.2 [] (by simp)⟩

end Runs

section Strings

def utf8 (s : String) : List UInt8 := s.toUTF8.data.toList

/-- The queue of strings that the commands of the device manager keep. -/
def Keeps (q : Queue) (queue : List String) : Prop := q.held.map CString.chars = queue.map utf8

variable {q : Queue} {queue : List String} {name : String} {deviceId : DeviceId}

theorem utf8_injective : Function.Injective utf8 := by
  intro s t same
  have bytes : s.toByteArray = t.toByteArray := ByteArray.ext (Array.toList_inj.1 same)
  exact String.toByteArray_inj.1 bytes

theorem CString.chars_injective : Function.Injective CString.chars := by
  rintro ⟨chars, _⟩ ⟨chars', _⟩ same
  cases same
  rfl

theorem Keeps.initial : Keeps Queue.initial [] := rfl

theorem Keeps.set (h : Keeps q queue) (same : deviceId.chars = utf8 name) :
    Keeps (q.setTlsReloadPending (some deviceId.toCString))
      (DeviceManager.setTlsReloadPending name queue) := by
  have named : name ≠ "" := by
    rintro rfl
    exact deviceId.nonempty (same.trans rfl)
  have pushed : DeviceManager.setTlsReloadPending name queue =
      pushIfNew tlsReloadPendingMax name queue := by
    by_cases here : name ∈ queue
    · simp [DeviceManager.setTlsReloadPending, pushIfNew, here]
    · simp [DeviceManager.setTlsReloadPending, pushIfNew, here, named]
      rfl
  rw [Keeps, Queue.held_set deviceId.nonempty deviceId.fits, pushed,
    map_pushIfNew CString.chars_injective, map_pushIfNew utf8_injective, h, same]

theorem Keeps.consume (h : Keeps q queue) (same : deviceId.chars = utf8 name) :
    Keeps (q.consumeTlsReloadPending (some deviceId.toCString)).1
        (DeviceManager.consumeTlsReloadPending name queue).1 ∧
      (q.consumeTlsReloadPending (some deviceId.toCString)).2 =
        (DeviceManager.consumeTlsReloadPending name queue).2 := by
  have taken : DeviceManager.consumeTlsReloadPending name queue = swapOut name queue := rfl
  constructor
  · rw [Keeps, Queue.held_consume, taken, map_swapOut CString.chars_injective,
      map_swapOut utf8_injective, h, same]
  · rw [Queue.answer_consume, taken, swapOut_answer]
    apply decide_eq_decide.2
    rw [← List.mem_map_of_injective CString.chars_injective, h, same,
      List.mem_map_of_injective utf8_injective]

def SameOp : Op DeviceId → Op String → Prop
  | .put deviceId, .put name | .take deviceId, .take name => deviceId.chars = utf8 name
  | _, _ => False

def nextStrings (queue : List String) : Op String → List String
  | .put name => DeviceManager.setTlsReloadPending name queue
  | .take name => (DeviceManager.consumeTlsReloadPending name queue).1

theorem Keeps.next {op : Op DeviceId} {named : Op String} (h : Keeps q queue)
    (same : SameOp op named) : Keeps (q.next op) (nextStrings queue named) := by
  cases op <;> cases named
  · exact h.set same
  · exact same.elim
  · exact same.elim
  · exact (h.consume same).1

/-- After the same calls the rows spell the strings that the commands keep, and a device is
answered alike. -/
theorem strings_refined {ops : List (Op DeviceId)} {calls : List (Op String)}
    (same : List.Forall₂ SameOp ops calls) (spelled : deviceId.chars = utf8 name) :
    Keeps (Queue.after ops) (calls.foldl nextStrings []) ∧
      ((Queue.after ops).consumeTlsReloadPending (some deviceId.toCString)).2 =
        (DeviceManager.consumeTlsReloadPending name (calls.foldl nextStrings [])).2 := by
  have kept : ∀ q queue, Keeps q queue →
      Keeps (ops.foldl Queue.next q) (calls.foldl nextStrings queue) := by
    induction same with
    | nil => exact fun q queue h => h
    | cons here rest ih => exact fun q queue h => ih _ _ (h.next here)
  have all := kept _ _ Keeps.initial
  exact ⟨all, (all.consume spelled).2⟩

end Strings

end TlsReloadQueue
