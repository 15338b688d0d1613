import Mathlib.Algebra.GroupWithZero.Nat
import Mathlib.Data.List.Nodup
import NetPort.DeviceBroadcasts

/-! The list of the browser against the device tables, over any interleaving of statements,
notifications, flushes and answers. -/
namespace LiveDeviceLists

open StepRuns DeviceBroadcasts

def Outstanding (s : State) (p : Payload) : Prop :=
  p ∈ s.channel ∨ p ∈ s.pending ∨ (∃ job ∈ s.jobs, p ∈ job) ∨ ∃ a ∈ s.answers, p ∈ a.rest

structure Invariant (s : State) : Prop where
  known : Known s.tables
  gone : ∀ id deviceId userId, Outstanding s (.deleted id deviceId userId) →
    id ∈ s.tables.born ∧ s.tables.devices id = none
  timer : s.timer = true ↔ s.pending ≠ []
  deaf : s.listening = false → s.channel = []
  distinct : s.pending.Nodup
  keyed : (s.list.map (·.id)).Nodup

def Handled (s : State) (p : Payload) : Action → Prop
  | .read _ id _ _ | .readFails _ id _ _ => p = .device id
  | .remove _ id deviceId userId _ _ => p = .deleted id deviceId userId
  | .disconnect => p ∈ s.channel
  | _ => False

variable {s t : State} {a : Action} {p : Payload} {k : Uuid}

theorem outstanding_kept (inv : Invariant s) (enabled : Enabled s a) (h : Outstanding s p) :
    Outstanding (next s a) p ∨ Handled s p a := by
  cases a with
  | commit changes =>
    left
    rcases h with channel | rest
    · left
      simp only [next]
      split
      · exact List.mem_append_left _ channel
      · exact channel
    · exact .inr rest
  | tick now => exact .inl h
  | receive =>
    obtain ⟨_, some_⟩ := enabled
    obtain ⟨first, rest, channel⟩ := List.exists_cons_of_ne_nil some_
    left
    simp only [Outstanding, next, channel, State.schedule]
    rcases h with sent | pending | later
    · rw [channel] at sent
      rcases List.mem_cons.1 sent with rfl | sent
      · right; left
        split <;> simp_all
      · exact .inl sent
    · right; left
      split <;> simp_all
    · exact .inr (.inr later)
  | flush =>
    left
    simp only [Outstanding, next, List.mem_append, List.mem_singleton] at h ⊢
    rcases h with sent | pending | ⟨job, mem, inside⟩ | later
    · exact .inl sent
    · exact .inr (.inr (.inl ⟨_, .inr rfl, pending⟩))
    · exact .inr (.inr (.inl ⟨job, .inl mem, inside⟩))
    · exact .inr (.inr (.inr later))
  | read earlier id rest later =>
    have jobs : s.jobs = _ := enabled
    simp only [Outstanding, next, Handled, jobs, List.mem_append, List.mem_cons] at h ⊢
    grind
  | readFails earlier id rest later =>
    have jobs : s.jobs = _ := enabled
    simp only [Outstanding, next, Handled, jobs, List.mem_append, List.mem_cons] at h ⊢
    grind
  | remove earlier id deviceId userId rest later =>
    have jobs : s.jobs = _ := enabled
    simp only [Outstanding, next, Handled, jobs, List.mem_append, List.mem_cons] at h ⊢
    grind
  | deliver earlier answer later =>
    have answers : s.answers = _ := enabled
    simp only [Outstanding, next, Handled, answers, List.mem_append, List.mem_cons] at h ⊢
    grind
  | routeBroadcast id =>
    simp only [Outstanding, next, Handled, List.mem_append, List.mem_singleton] at h ⊢
    grind
  | routeRemoved id => exact .inl h
  | disconnect =>
    simp only [Outstanding, next, Handled] at h ⊢
    rcases h with sent | pending | ⟨job, mem, inside⟩ | later
    · exact .inr sent
    · left
      have armed := inv.timer.2 (List.ne_nil_of_mem pending)
      simp only [armed, if_true, List.mem_append, List.mem_singleton]
      exact .inr (.inr (.inl ⟨_, .inr rfl, pending⟩))
    · left
      refine .inr (.inr (.inl ⟨job, ?_, inside⟩))
      split
      · exact List.mem_append_left _ mem
      · exact mem
    · exact .inl (.inr (.inr (.inr later)))
  | reconnect => exact .inl h
  | load list => exact .inl h

theorem outstanding_origin (enabled : Enabled s a) (h : Outstanding (next s a) p) :
    Outstanding s p ∨ (∃ changes, a = .commit changes ∧ p ∈ (runChanges s.tables changes).2) ∨
      ∃ id, a = .routeBroadcast id ∧ p = .device id := by
  cases a with
  | commit changes =>
    rcases h with channel | rest
    · simp only [next] at channel
      split at channel
      · rcases List.mem_append.1 channel with sent | new
        · exact .inl (.inl sent)
        · exact .inr (.inl ⟨changes, rfl, List.mem_eraseDups.1 new⟩)
      · exact .inl (.inl channel)
    · exact .inl (.inr rest)
  | tick now => exact .inl h
  | receive =>
    obtain ⟨_, some_⟩ := enabled
    obtain ⟨first, rest, channel⟩ := List.exists_cons_of_ne_nil some_
    left
    simp only [Outstanding, next, channel, State.schedule, List.mem_cons] at h ⊢
    rcases h with sent | pending | later
    · exact .inl (.inr sent)
    · split at pending
      · exact .inr (.inl pending)
      · rcases List.mem_append.1 pending with old | new
        · exact .inr (.inl old)
        · exact .inl (.inl (List.mem_singleton.1 new))
    · exact .inr (.inr later)
  | flush =>
    left
    simp only [Outstanding, next, List.mem_append, List.mem_singleton, List.not_mem_nil] at h ⊢
    grind
  | read earlier id rest later =>
    have jobs : s.jobs = _ := enabled
    left
    simp only [Outstanding, next, jobs, List.mem_append, List.mem_cons] at h ⊢
    grind
  | readFails earlier id rest later =>
    have jobs : s.jobs = _ := enabled
    left
    simp only [Outstanding, next, jobs, List.mem_append, List.mem_cons] at h ⊢
    grind
  | remove earlier id deviceId userId rest later =>
    have jobs : s.jobs = _ := enabled
    left
    simp only [Outstanding, next, jobs, List.mem_append, List.mem_cons] at h ⊢
    grind
  | deliver earlier answer later =>
    have answers : s.answers = _ := enabled
    left
    simp only [Outstanding, next, answers, List.mem_append, List.mem_cons] at h ⊢
    grind
  | routeBroadcast id =>
    simp only [Outstanding, next, List.mem_append, List.mem_singleton] at h
    simp only [Outstanding]
    grind
  | routeRemoved id => exact .inl h
  | disconnect =>
    left
    simp only [Outstanding, next, List.not_mem_nil, false_or] at h ⊢
    split at h
    · simp only [List.mem_append, List.mem_singleton] at h
      grind
    · grind
  | reconnect => exact .inl h
  | load list => exact .inl h

theorem known_next (enabled : Enabled s a) (inv : Invariant s) :
    Known (next s a).tables ∧ (k ∈ s.tables.born → s.tables.devices k = none →
      k ∈ (next s a).tables.born ∧ (next s a).tables.devices k = none) := by
  cases a with
  | commit changes => exact ⟨runChanges_known inv.known, runChanges_gone enabled⟩
  | receive =>
    obtain ⟨_, some_⟩ := enabled
    obtain ⟨first, rest, channel⟩ := List.exists_cons_of_ne_nil some_
    simp only [next, channel, State.schedule]
    exact ⟨inv.known, fun born gone => ⟨born, gone⟩⟩
  | tick now => exact ⟨inv.known, fun born gone => ⟨born, gone⟩⟩
  | flush => exact ⟨inv.known, fun born gone => ⟨born, gone⟩⟩
  | read earlier id rest later => exact ⟨inv.known, fun born gone => ⟨born, gone⟩⟩
  | readFails earlier id rest later => exact ⟨inv.known, fun born gone => ⟨born, gone⟩⟩
  | remove earlier id deviceId userId rest later =>
    exact ⟨inv.known, fun born gone => ⟨born, gone⟩⟩
  | deliver earlier answer later => exact ⟨inv.known, fun born gone => ⟨born, gone⟩⟩
  | routeBroadcast id => exact ⟨inv.known, fun born gone => ⟨born, gone⟩⟩
  | routeRemoved id => exact ⟨inv.known, fun born gone => ⟨born, gone⟩⟩
  | disconnect => exact ⟨inv.known, fun born gone => ⟨born, gone⟩⟩
  | reconnect => exact ⟨inv.known, fun born gone => ⟨born, gone⟩⟩
  | load list => exact ⟨inv.known, fun born gone => ⟨born, gone⟩⟩

theorem gone_next (inv : Invariant s) (enabled : Enabled s a) (id : Uuid) (deviceId userId : Value)
    (h : Outstanding (next s a) (.deleted id deviceId userId)) :
    id ∈ (next s a).tables.born ∧ (next s a).tables.devices id = none := by
  rcases outstanding_origin enabled h with old | ⟨changes, rfl, new⟩ | ⟨_, _, other⟩
  · obtain ⟨born, gone⟩ := inv.gone id deviceId userId old
    exact (known_next enabled inv).2 born gone
  · exact runChanges_notified inv.known enabled new
  · cases other

theorem keyed_merge {list : List Item} (u : Item) (keyed : (list.map (·.id)).Nodup) :
    ((mergeDeviceUpdate list u).map (·.id)).Nodup := by
  rw [mergeDeviceUpdate_ids]
  split
  · exact keyed
  · rename_i absent
    exact keyed.append (List.nodup_singleton _) (List.disjoint_singleton.2 absent)

theorem keyed_remove {list : List Item} (id : Uuid) (keyed : (list.map (·.id)).Nodup) :
    ((removeDeviceFromList list id).map (·.id)).Nodup :=
  keyed.sublist (List.filter_sublist.map _)

theorem next_invariant (inv : Invariant s) (enabled : Enabled s a) : Invariant (next s a) := by
  have known := (known_next (k := 0) enabled inv).1
  have gone := gone_next inv enabled
  cases a with
  | commit changes =>
    refine ⟨known, gone, inv.timer, ?_, inv.distinct, inv.keyed⟩
    intro off
    have deaf : s.listening = false := off
    simp only [next, deaf, Bool.false_eq_true, if_false]
    exact inv.deaf deaf
  | tick now => exact ⟨known, gone, inv.timer, inv.deaf, inv.distinct, inv.keyed⟩
  | receive =>
    obtain ⟨on, some_⟩ := enabled
    obtain ⟨first, rest, channel⟩ := List.exists_cons_of_ne_nil some_
    simp only [next, channel, State.schedule] at known gone ⊢
    refine ⟨known, gone, ?_, ?_, ?_, inv.keyed⟩
    · by_cases again : first ∈ s.pending
      · simp [again, List.ne_nil_of_mem again]
      · simp [again]
    · intro off
      exact absurd (on.symm.trans off) (by decide)
    · by_cases again : first ∈ s.pending
      · simpa only [again, if_true] using inv.distinct
      · simp only [again, if_false]
        exact inv.distinct.append (List.nodup_singleton _) (List.disjoint_singleton.2 again)
  | flush => exact ⟨known, gone, by simp [next], inv.deaf, List.nodup_nil, inv.keyed⟩
  | read earlier id rest later =>
    exact ⟨known, gone, inv.timer, inv.deaf, inv.distinct, inv.keyed⟩
  | readFails earlier id rest later =>
    exact ⟨known, gone, inv.timer, inv.deaf, inv.distinct, inv.keyed⟩
  | remove earlier id deviceId userId rest later =>
    exact ⟨known, gone, inv.timer, inv.deaf, inv.distinct, keyed_remove id inv.keyed⟩
  | deliver earlier answer later =>
    refine ⟨known, gone, inv.timer, inv.deaf, inv.distinct, ?_⟩
    simp only [next]
    cases answer.joined with
    | none => exact keyed_remove _ inv.keyed
    | some joined => exact keyed_merge _ inv.keyed
  | routeBroadcast id => exact ⟨known, gone, inv.timer, inv.deaf, inv.distinct, inv.keyed⟩
  | routeRemoved id =>
    exact ⟨known, gone, inv.timer, inv.deaf, inv.distinct, keyed_remove id inv.keyed⟩
  | disconnect => exact ⟨known, gone, by simp [next], fun _ => rfl, List.nodup_nil, inv.keyed⟩
  | reconnect =>
    refine ⟨known, gone, inv.timer, ?_, inv.distinct, inv.keyed⟩
    intro off
    exact absurd off (by simp [next])
  | load list => exact ⟨known, gone, inv.timer, inv.deaf, inv.distinct, enabled⟩

theorem started_invariant (h : Started s) : Invariant s := by
  obtain ⟨_, channel, pending, timer, jobs, answers, list, known⟩ := h
  refine ⟨known, ?_, by simp [timer, pending], fun _ => channel, by simp [pending], by simp [list]⟩
  intro id deviceId userId outstanding
  simp [Outstanding, channel, pending, jobs, answers] at outstanding

theorem invariant {log : List (State × Action)} (run : system.Run log s) : Invariant s :=
  run.always (fun _ => started_invariant) fun _ _ => next_invariant

/-- An entry is a broadcast, computed at some time from a read with these columns; a device that
is not there has none. -/
def Shows (object : Option Object) : Option Watched → Prop
  | none => object = none
  | some columns => ∃ joined now, joined.watched = columns ∧
      object = some (enrichDeviceWithOnline joined now)

def readColumns (a : Answer) : Uuid × Option Watched :=
  (a.device, a.joined.map Joined.watched)

def notifiedView (s : State) : NotifiedViews.State Uuid (Option Watched) (Option Object) where
  current := watchedNow s.tables s.now
  owed k := ∃ p, Outstanding s p ∧ p.id = k
  answers := s.answers.map readColumns
  view := shown s.list

def Delivered (s : State) (k : Uuid) : Prop := ∀ a ∈ s.answers, a.device ≠ k

/-- For the device `k`: its notifications find a listener, its reads succeed and are delivered in
their order, no session of it runs out unnoticed, and the page is not loaded with old data. -/
def Careful (k : Uuid) (s : State) : Action → Prop
  | .commit changes =>
    (∃ p ∈ (runChanges s.tables changes).2, p.id = k) → s.listening = true
  | .tick now => liveSession s.tables now k = liveSession s.tables s.now k
  | .readFails _ id _ _ => id ≠ k
  | .remove _ id _ _ _ _ | .routeRemoved id => id = k → Delivered s k
  | .deliver earlier answer _ => answer.device = k → ∀ a ∈ earlier, a.device ≠ k
  | .disconnect => ∀ p ∈ s.channel, p.id ≠ k
  | .load list => Delivered s k ∧ Shows (shown list k) (watchedNow s.tables s.now k)
  | _ => True

abbrev Follows (k : Uuid) := Relation.ReflTransGen (NotifiedViews.Step Shows k)

theorem owed_kept (inv : Invariant s) (enabled : Enabled s a)
    (unhandled : ∀ p, p.id = k → ¬ Handled s p a) (h : (notifiedView s).owed k) :
    (notifiedView (next s a)).owed k := by
  obtain ⟨p, outstanding, about⟩ := h
  rcases outstanding_kept inv enabled outstanding with kept | handled
  · exact ⟨p, kept, about⟩
  · exact absurd handled (unhandled p about)

theorem watchedNow_gone {t : Tables} {now : ℕ} (gone : t.devices k = none) :
    watchedNow t now k = none := by
  rw [watchedNow, fetchDeviceBroadcastPayload, gone]
  rfl

theorem shown_broadcast (list : List Item) (now : ℕ) (j : Uuid) (joined : Option Joined) :
    Shows (shown (broadcast list now j joined) j) (joined.map Joined.watched) ∧
      (j ≠ k → shown (broadcast list now j joined) k = shown list k) := by
  cases joined with
  | none =>
    refine ⟨?_, fun other => ?_⟩
    · exact (shown_remove list j j).trans (if_pos rfl)
    · exact (shown_remove list j k).trans (if_neg other)
  | some joined =>
    have complete (f : Field) : (enrichDeviceWithOnline joined now f).isSome := by
      cases f with
      | column c =>
        cases c with
        | status =>
          simp only [enrichDeviceWithOnline]
          split <;> rfl
        | _ => rfl
      | _ => rfl
    refine ⟨⟨joined, now, rfl, ?_⟩, fun other => ?_⟩
    · exact (shown_merge list complete).trans (if_pos rfl)
    · exact (shown_merge list complete).trans (if_neg other)

theorem columns_other {answers : List Answer} (h : ∀ a ∈ answers, a.device ≠ k) :
    ∀ read ∈ answers.map readColumns, read.1 ≠ k := by
  intro read mem
  obtain ⟨a, waits, rfl⟩ := List.mem_map.1 mem
  exact h a waits

theorem follows_removal {j : Uuid} {owed : Uuid → Prop} (gone : s.tables.devices j = none)
    (delivered : j = k → Delivered s k) (keeps : j ≠ k → (notifiedView s).owed k → owed k) :
    Follows k (notifiedView s)
      { notifiedView s with owed := owed, view := shown (removeDeviceFromList s.list j) } := by
  refine .single (.reload _ _ ?_)
  by_cases same : j = k
  · subst same
    refine .inr ⟨columns_other (delivered rfl), ?_⟩
    have absent : (notifiedView s).current j = none := watchedNow_gone gone
    rw [absent]
    exact (shown_remove s.list j j).trans (if_pos rfl)
  · exact .inl ⟨keeps same, (shown_remove s.list j k).trans (if_neg same)⟩

/-- The statements, the watcher and the browser keep a notified view of every device. -/
theorem follows_next (inv : Invariant s) (enabled : Enabled s a) (careful : Careful k s a) :
    Follows k (notifiedView s) (notifiedView (next s a)) := by
  have kept := owed_kept (k := k) inv enabled
  cases a with
  | commit changes =>
    refine .single (.write _ _ (kept fun _ _ handled => handled) ?_)
    by_cases announced : ∃ p ∈ (runChanges s.tables changes).2, p.id = k
    · right
      have listening := careful announced
      obtain ⟨p, mem, about⟩ := announced
      refine ⟨p, .inl ?_, about⟩
      simp only [next, listening, if_true]
      exact List.mem_append_right _ (List.mem_eraseDups.2 mem)
    · left
      exact watchedNow_runChanges enabled fun p mem about => announced ⟨p, mem, about⟩
  | tick now =>
    refine .single (.write _ _ id (.inl ?_))
    have same : liveSession s.tables now k = liveSession s.tables s.now k := careful
    simp only [notifiedView, next, watchedNow_eq, same]
  | receive =>
    have owed := kept fun _ _ handled => handled
    obtain ⟨_, some_⟩ := enabled
    obtain ⟨first, rest, channel⟩ := List.exists_cons_of_ne_nil some_
    simp only [next, channel] at owed ⊢
    exact .single (.write _ _ owed (.inl rfl))
  | flush => exact .single (.write _ _ (kept fun _ _ handled => handled) (.inl rfl))
  | read earlier j rest later =>
    have owed : j ≠ k → (notifiedView s).owed k →
        (notifiedView (next s (.read earlier j rest later))).owed k := by
      refine fun other => kept ?_
      rintro p rfl (rfl : p = .device j)
      exact other rfl
    have target : notifiedView (next s (.read earlier j rest later)) =
        { notifiedView s with
          owed := (notifiedView (next s (.read earlier j rest later))).owed
          answers := (notifiedView s).answers ++ [(j, (notifiedView s).current j)] } := by
      simp [notifiedView, next, readColumns, watchedNow]
    rw [target]
    exact .single (.read j _ owed)
  | readFails earlier j rest later =>
    refine .single (.write _ _ (kept ?_) (.inl rfl))
    rintro p rfl (rfl : p = .device j)
    exact careful rfl
  | remove earlier j deviceId userId rest later =>
    have jobs : s.jobs = _ := enabled
    have outstanding : Outstanding s (.deleted j deviceId userId) := by
      refine .inr (.inr (.inl ⟨.deleted j deviceId userId :: rest, ?_, List.mem_cons_self⟩))
      simp [jobs]
    have gone := (inv.gone j deviceId userId outstanding).2
    refine follows_removal gone careful fun other => kept ?_
    rintro p rfl (rfl : p = .deleted j deviceId userId)
    exact other rfl
  | deliver earlier answer later =>
    have answers : s.answers = _ := enabled
    obtain ⟨shows, others⟩ := shown_broadcast (k := k) s.list s.now answer.device answer.joined
    have owed := kept fun _ _ handled => handled
    have split : (notifiedView s).answers =
        earlier.map readColumns ++ readColumns answer :: later.map readColumns := by
      simp [notifiedView, answers]
    have delivery : NotifiedViews.Step Shows k (notifiedView s) _ :=
      .deliver _ _ _ _ (shown (broadcast s.list s.now answer.device answer.joined)) split
        (fun own => columns_other (careful own)) (by rintro rfl; exact shows) others
    have target : notifiedView (next s (.deliver earlier answer later)) =
        { notifiedView s with
          owed := (notifiedView (next s (.deliver earlier answer later))).owed
          answers := earlier.map readColumns ++ later.map readColumns
          view := shown (broadcast s.list s.now answer.device answer.joined) } := by
      simp [notifiedView, next]
    rw [target]
    exact .trans (.single delivery) (.single (.write _ _ owed (.inl rfl)))
  | routeBroadcast j => exact .single (.write _ _ (kept fun _ _ handled => handled) (.inl rfl))
  | routeRemoved j =>
    exact follows_removal enabled.2 careful fun _ => kept fun _ _ handled => handled
  | disconnect =>
    refine .single (.write _ _ (kept ?_) (.inl rfl))
    intro p about sent
    exact careful p sent about
  | reconnect => exact .refl
  | load list =>
    exact .single (.reload _ _ (.inr ⟨columns_other careful.1, careful.2⟩))

/-- After an announced statement that finds a listener, the device stays fresh. -/
theorem fresh_after {log earlier later : List (State × Action)} {changes : List Change}
    (run : system.Run log t) (split : log = earlier ++ (s, Action.commit changes) :: later)
    (listening : s.listening = true)
    (announced : ∃ p ∈ (runChanges s.tables changes).2, p.id = k)
    (careful : ∀ e ∈ later, Careful k e.1 e.2) :
    NotifiedViews.Fresh Shows (notifiedView t) k := by
  induction run generalizing later with
  | start => simp at split
  | @step log u a run enabled ih =>
    rcases List.eq_nil_or_concat later with rfl | ⟨later, last, rfl⟩
    · obtain ⟨_, here⟩ := List.append_inj' split rfl
      cases List.singleton_inj.1 here
      obtain ⟨p, mem, about⟩ := announced
      refine .inl ⟨p, .inl ?_, about⟩
      simp only [system, next, listening, if_true]
      exact List.mem_append_right _ (List.mem_eraseDups.2 mem)
    · rw [List.concat_eq_append] at careful split
      rw [← List.cons_append, ← List.append_assoc] at split
      obtain ⟨before, here⟩ := List.append_inj' split rfl
      cases List.singleton_inj.1 here
      have fresh := ih before fun e mem => careful e (List.mem_append_left _ mem)
      have step := careful (u, a) (by simp)
      exact NotifiedViews.fresh_run (follows_next (invariant run) enabled step) fresh

/-- Whatever happened before: a statement on the device is announced and all goes well for the
device since then. Once nothing about it is on its way, the list shows what the tables hold. -/
theorem list_current {log earlier later : List (State × Action)} {changes : List Change}
    (run : system.Run log t) (split : log = earlier ++ (s, Action.commit changes) :: later)
    (listening : s.listening = true)
    (announced : ∃ p ∈ (runChanges s.tables changes).2, p.id = k)
    (careful : ∀ e ∈ later, Careful k e.1 e.2) (handled : ∀ p, Outstanding t p → p.id ≠ k)
    (delivered : Delivered t k) :
    Shows (shown t.list k) (watchedNow t.tables t.now k) := by
  have fresh := fresh_after run split listening announced careful
  have followed : ¬ (notifiedView t).owed k := by
    rintro ⟨p, outstanding, about⟩
    exact handled p outstanding about
  have shows := fresh.shows followed (columns_other delivered)
  exact shows

def idle : State where
  tables := ⟨fun id => if id = 1 then some fun _ => .null else none, [1], []⟩
  now := 0
  listening := false
  channel := []
  pending := []
  timer := false
  jobs := []
  answers := []
  list := []

def activate : List Change := [.updateDevice 1 [(.status, .text "active")]]

def connected : State := next idle .reconnect

def committed : State := next connected (.commit activate)

def flushed : State := next (next committed .receive) .flush

def answered : State := next flushed (.read [] 1 [] [])

def firstAnswer : Answer := ⟨1, fetchDeviceBroadcastPayload flushed.tables 0 1, []⟩

theorem idle_started : Started idle := by
  refine ⟨rfl, rfl, rfl, rfl, rfl, rfl, rfl, fun id present => ?_⟩
  by_cases one : id = 1
  · simp [idle, one]
  · exact absurd (if_neg one) present

theorem committed_run :
    system.Run ([(idle, Action.reconnect)] ++ [(connected, Action.commit activate)]) committed := by
  have connects : system.enabled idle .reconnect := rfl
  have commits : system.enabled connected (.commit activate) := ⟨trivial, trivial⟩
  exact ((System.Run.start idle_started).step connects).step commits

theorem internal_steps :
    system.enabled committed .receive ∧ system.enabled (next committed .receive) .flush ∧
      system.enabled flushed (.read [] 1 [] []) ∧
      system.enabled answered (.deliver [] firstAnswer []) :=
  ⟨⟨rfl, List.cons_ne_nil _ _⟩, rfl, rfl, rfl⟩

def afterwards : List (State × Action) :=
  [(committed, .receive), (next committed .receive, .flush), (flushed, .read [] 1 [] []),
    (answered, .deliver [] firstAnswer [])]

/-- The device becomes active, and the list shows it so. -/
theorem list_current_activated : ∃ t : State,
    Shows (shown t.list 1) (watchedNow t.tables t.now 1) ∧
      (shown t.list 1).bind (· (.column .status)) = some (.text "active") := by
  obtain ⟨receives, flushes, reads, delivers⟩ := internal_steps
  have run : system.Run ([(idle, Action.reconnect)] ++ (connected, .commit activate) :: afterwards)
      (next answered (.deliver [] firstAnswer [])) :=
    ((((committed_run.step receives).step flushes).step reads).step delivers)
  refine ⟨_, list_current run rfl rfl ⟨.device 1, List.mem_singleton_self _, rfl⟩ ?_ ?_ ?_, rfl⟩
  · rintro e (_ | ⟨_, _ | ⟨_, _ | ⟨_, _ | ⟨_, _ | _⟩⟩⟩⟩)
    · exact trivial
    · exact trivial
    · exact trivial
    · intro _ a mem
      cases mem
  · rintro p (mem | mem | ⟨job, mem, inside⟩ | ⟨a, mem, _⟩)
    · cases mem
    · cases mem
    · rcases List.mem_singleton.1 mem with rfl
      cases inside
    · cases mem
  · intro a mem
    cases mem

/-- The steps of the watcher itself, of the database's answers and of the browser. -/
def Internal : Action → Prop
  | .receive | .flush | .read _ _ _ _ | .readFails _ _ _ _ | .remove _ _ _ _ _ _ | .deliver _ _ _ =>
    True
  | _ => False

def work (s : State) : ℕ :=
  4 * s.channel.length + 3 * s.pending.length + (s.jobs.map fun job => 2 * job.length).sum +
    (s.answers.map fun a => 2 * a.rest.length + 1).sum

def draining (s : State) : System State Action :=
  ⟨(· = s), fun t a => Enabled t a ∧ Internal a, next⟩

theorem work_next (inv : Invariant s) (enabled : Enabled s a) (internal : Internal a) :
    work (next s a) + 1 ≤ work s := by
  cases a with
  | commit | tick | routeBroadcast | routeRemoved | disconnect | reconnect | load =>
    exact internal.elim
  | receive =>
    obtain ⟨_, some_⟩ := enabled
    obtain ⟨first, rest, channel⟩ := List.exists_cons_of_ne_nil some_
    simp only [work, next, channel, State.schedule, List.length_cons]
    split
    · omega
    · simp only [List.length_append, List.length_singleton]
      omega
  | flush =>
    have some_ := List.length_pos_iff.2 (inv.timer.1 enabled)
    simp only [work, next, List.map_append, List.sum_append, List.map_singleton,
      List.sum_singleton, List.length_nil]
    omega
  | read earlier j rest later =>
    have jobs : s.jobs = _ := enabled
    simp only [work, next, jobs, List.map_append, List.sum_append, List.map_cons, List.sum_cons,
      List.length_cons, List.map_nil, List.sum_nil]
    omega
  | readFails earlier j rest later =>
    have jobs : s.jobs = _ := enabled
    simp only [work, next, jobs, List.map_append, List.sum_append, List.map_cons, List.sum_cons,
      List.length_cons]
    omega
  | remove earlier j deviceId userId rest later =>
    have jobs : s.jobs = _ := enabled
    simp only [work, next, jobs, List.map_append, List.sum_append, List.map_cons, List.sum_cons,
      List.length_cons]
    omega
  | deliver earlier answer later =>
    have answers : s.answers = _ := enabled
    simp only [work, next, answers, List.map_append, List.sum_append, List.map_cons,
      List.sum_cons, List.map_nil, List.sum_nil]
    omega

/-- Where nothing internal can happen, nothing waits: no payload is stranded without a timer. -/
theorem nothing_waits (inv : Invariant s) (stuck : ∀ a, Internal a → ¬ Enabled s a) :
    (∀ p, ¬ Outstanding s p) ∧ s.answers = [] := by
  have answers : s.answers = [] := by
    rcases answers : s.answers with _ | ⟨a, later⟩
    · rfl
    · exact absurd answers (stuck (.deliver [] a later) trivial)
  refine ⟨?_, answers⟩
  rintro p (sent | pending | ⟨job, mem, inside⟩ | ⟨a, mem, _⟩)
  · have waiting := List.ne_nil_of_mem sent
    cases listening : s.listening with
    | false => exact waiting (inv.deaf listening)
    | true => exact stuck .receive trivial ⟨listening, waiting⟩
  · exact stuck .flush trivial (inv.timer.2 (List.ne_nil_of_mem pending))
  · obtain ⟨earlier, later, jobs⟩ := List.append_of_mem mem
    rcases job with _ | ⟨_ | _, rest⟩
    · cases inside
    · exact stuck (.read earlier _ rest later) trivial jobs
    · exact stuck (.remove earlier _ _ _ rest later) trivial jobs
  · rw [answers] at mem
    cases mem

theorem draining_invariant {log : List (State × Action)} (inv : Invariant s)
    (drain : (draining s).Run log t) :
    Invariant t ∧ log.length + work t ≤ work s := by
  induction drain with
  | start same =>
    cases same
    exact ⟨inv, by simp⟩
  | @step log u a _ enabled ih =>
    obtain ⟨inv, steps⟩ := ih
    refine ⟨next_invariant inv enabled.1, ?_⟩
    have less := work_next inv enabled.1 enabled.2
    simp only [List.length_append, List.length_singleton]
    change log.length + 1 + work (next u a) ≤ work s
    omega

/-- When statements and requests stop, what is under way comes to an end within the steps that are
left, and only when everything has been handled. -/
theorem drains {log rest : List (State × Action)} (run : system.Run log s)
    (drain : (draining s).Run rest t) :
    rest.length ≤ work s ∧
      ((∀ a, Internal a → ¬ Enabled t a) → (∀ p, ¬ Outstanding t p) ∧ t.answers = []) := by
  obtain ⟨inv, steps⟩ := draining_invariant (invariant run) drain
  exact ⟨by omega, nothing_waits inv⟩

theorem drains_activated : ∃ t : State, 4 ≤ work committed ∧
    ((∀ a, Internal a → ¬ Enabled t a) → (∀ p, ¬ Outstanding t p) ∧ t.answers = []) := by
  obtain ⟨receives, flushes, reads, delivers⟩ := internal_steps
  have receives : (draining committed).enabled committed .receive := ⟨receives, trivial⟩
  have flushes : (draining committed).enabled (next committed .receive) .flush :=
    ⟨flushes, trivial⟩
  have reads : (draining committed).enabled flushed (.read [] 1 [] []) := ⟨reads, trivial⟩
  have delivers : (draining committed).enabled answered (.deliver [] firstAnswer []) :=
    ⟨delivers, trivial⟩
  have start : (draining committed).initial committed := rfl
  have run := ((((System.Run.start start).step receives).step flushes).step reads).step delivers
  exact ⟨_, drains committed_run run⟩

/-- In every reachable state: the list has no device twice, nor has the pending set a payload, and
a flush is due exactly when something is pending. -/
theorem listed_once {log : List (State × Action)} (run : system.Run log t) :
    (t.list.map (·.id)).Nodup ∧ t.pending.Nodup ∧ (t.timer = true ↔ t.pending ≠ []) :=
  ⟨(invariant run).keyed, (invariant run).distinct, (invariant run).timer⟩

theorem listed_once_committed :
    (committed.list.map (·.id)).Nodup ∧ committed.pending.Nodup ∧
      (committed.timer = true ↔ committed.pending ≠ []) :=
  listed_once committed_run

end LiveDeviceLists
