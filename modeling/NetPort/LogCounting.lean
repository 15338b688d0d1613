import Mathlib.Algebra.Order.BigOperators.Group.List
import NetPort.LogLines
import NetPort.PrometheusCounters

/-! The registration errors that `GET /metrics` counts in the logs, while the processes that write
them append to the files and rotate them. -/
namespace LogCounting

open LogLines StepRuns
open PrometheusCounters (File LogMetrics bytes lineMatchesFailure scrapeLogFile scraped
  scrapeRegistrationLogs)

def SIZE_PER_LOGFILE : ℕ := 5000000

def NUMBER_OF_BACKUP_FILES_TO_KEEP : ℕ := 3

abbrev Path := String × List UInt8

/-- A log file that can be read; the scrapes have got so far in what it holds as `seen` says. -/
structure LogFile where
  path : Path
  content : List UInt8
  seen : ℕ
  deriving DecidableEq

namespace LogFile

def file (f : LogFile) : File := ⟨f.path.1, f.path.2, true, f.content⟩

end LogFile

/-- `if (line && lineMatchesFailure(line))` -/
def failure (line : List UInt8) : Bool := !line.isEmpty && lineMatchesFailure line

def failures (text : List UInt8) : ℕ := finished 10 failure text

namespace LogFile

def ahead (f : LogFile) : ℕ := failures f.content - failures (f.content.take f.seen)

end LogFile

def present (files : List LogFile) : ℕ := (files.map fun f => failures f.content).sum

section Rotation

def backup (p : Path) (i : ℕ) : Path := if i = 0 then p else (p.1, p.2 ++ bytes (toString i))

def rename (old new : Path) (files : List LogFile) : List LogFile :=
  if files.any (·.path == old) then
    (files.filter (·.path != new)).map fun f => if f.path = old then { f with path := new } else f
  else files

def moveBackups (p : Path) (files : List LogFile) : List LogFile :=
  (List.range NUMBER_OF_BACKUP_FILES_TO_KEEP).reverse.foldl
    (fun files i => rename (backup p i) (backup p (i + 1)) files) files

def full (p : Path) (files : List LogFile) : Bool :=
  files.any fun f => f.path == p && SIZE_PER_LOGFILE ≤ f.content.length

def rotateFiles (p : Path) (files : List LogFile) : List LogFile :=
  if full p files then ⟨p, [], 0⟩ :: moveBackups p files else files

/-- `fopen(mlog.logFilename, "a+")` and what is written then -/
def append (p : Path) (text : List UInt8) (files : List LogFile) : List LogFile :=
  if files.any (·.path == p) then
    files.map fun f => if f.path = p then { f with content := f.content ++ text } else f
  else ⟨p, text, 0⟩ :: files

end Rotation

structure World where
  files : List LogFile
  logs : LogMetrics
  /-- The failure lines that were complete at the first scrape, and those completed since. -/
  due : Option ℕ
  /-- What the scrapes returned, and what was due then. -/
  answers : List (ℕ × ℕ)

inductive Action where
  | append (p : Path) (text : List UInt8)
  | rotate (p : Path)
  /-- The files in the order in which their names are read. -/
  | scrape (listing : List LogFile)

namespace World

def scrape (listing : List LogFile) (w : World) : World :=
  let logs := (scrapeRegistrationLogs (listing.map (·.file)) w.logs).1
  let due := w.due.getD (present w.files)
  { files := listing.map fun f => { f with seen := f.content.length }
    logs := logs
    due := some due
    answers := w.answers ++ [(logs.registrationErrorsTotal, due)] }

end World

def next (w : World) : Action → World
  | .append p text =>
    let files := append p text w.files
    { w with files := files, due := w.due.map (· + (present files - present w.files)) }
  | .rotate p => { w with files := rotateFiles p w.files }
  | .scrape listing => w.scrape listing

def Enabled (w : World) : Action → Prop
  | .append p _ => scraped p.2 = true
  | .rotate p => p ∈ w.files.map (·.path)
  | .scrape listing => listing.Perm w.files

instance (w : World) (a : Action) : Decidable (Enabled w a) := by
  rcases a with ⟨p, text⟩ | p | listing <;> dsimp only [Enabled] <;> infer_instance

structure Initial (w : World) : Prop where
  apart : (w.files.map (·.path)).Nodup
  named : ∀ f ∈ w.files, scraped f.path.2 = true
  unread : ∀ f ∈ w.files, f.seen = 0
  noOffsets : w.logs.fileOffsets = []
  noErrors : w.logs.registrationErrorsTotal = 0
  notScraped : w.due = none
  noAnswers : w.answers = []

def logging : System World Action where
  initial := Initial
  enabled := Enabled
  next := next

instance (w : World) (a : Action) : Decidable (logging.enabled w a) :=
  inferInstanceAs (Decidable (Enabled w a))

/-- A scrape returns the failure lines that were complete at the first one and those completed
since. -/
def Agree (w : World) : Prop := ∀ a ∈ w.answers, a.1 = a.2

instance (w : World) : Decidable (Agree w) := inferInstanceAs (Decidable (∀ _ ∈ _, _))

section Condition

def offset (m : LogMetrics) (f : LogFile) : ℕ :=
  if m.offset f.path > f.content.length then 0 else m.offset f.path

/-- No failure line ends between what was read and where the scrape goes on; a line that is cut
there is a failure exactly when its rest is one; and the unfinished line is none. -/
def Settled (m : LogMetrics) (f : LogFile) : Prop :=
  let before := f.content.take (offset m f)
  let rest := f.content.drop (offset m f)
  failures before = failures (f.content.take f.seen) ∧ Harmless 10 failure before rest ∧
    failure (unfinished 10 rest) = false

def Spared (p : Path) (files : List LogFile) : Prop :=
  (∃ f ∈ files, f.path = backup p (NUMBER_OF_BACKUP_FILES_TO_KEEP - 1)) →
    ∀ f ∈ files, f.path = backup p NUMBER_OF_BACKUP_FILES_TO_KEEP → f.ahead = 0

def Careful (w : World) : Action → Prop
  | .append _ _ => True
  | .rotate p => w.due.isSome → full p w.files → Spared p w.files
  | .scrape _ => ∀ f ∈ w.files, Settled w.logs f

instance (m : LogMetrics) (f : LogFile) : Decidable (Settled m f) := by
  dsimp only [Settled, Harmless]
  infer_instance

instance (p : Path) (files : List LogFile) : Decidable (Spared p files) := by
  dsimp only [Spared]
  infer_instance

instance (w : World) (a : Action) : Decidable (Careful w a) := by
  rcases a with ⟨p, text⟩ | p | listing <;> dsimp only [Careful] <;> infer_instance

end Condition

variable {w : World} {f : LogFile} {files listing : List LogFile} {p old new : Path}
  {text : List UInt8} {m : LogMetrics} {log : List (World × Action)}

def unread (files : List LogFile) : ℕ := (files.map (·.ahead)).sum

structure Tidy (files : List LogFile) : Prop where
  apart : (files.map (·.path)).Nodup
  named : ∀ f ∈ files, scraped f.path.2 = true
  seen : ∀ f ∈ files, f.seen ≤ f.content.length

structure Invariant (w : World) : Prop where
  tidy : Tidy w.files
  balance : ∀ d, w.due = some d → w.logs.registrationErrorsTotal + unread w.files = d
  before : w.due = none → w.logs.registrationErrorsTotal = 0 ∧ ∀ f ∈ w.files, f.seen = 0
  agree : Agree w

section Files

@[simp] theorem failures_nil : failures [] = 0 := by
  simp [failures, finished]

theorem ahead_of_unseen (h : f.seen = 0) : f.ahead = failures f.content := by
  simp [LogFile.ahead, h]

theorem ahead_append (h : f.seen ≤ f.content.length) :
    ({ f with content := f.content ++ text } : LogFile).ahead + failures f.content =
      f.ahead + failures (f.content ++ text) := by
  have read : (f.content ++ text).take f.seen = f.content.take f.seen :=
    List.take_append_of_le_length h
  have first : failures (f.content.take f.seen) ≤ failures f.content := finished_take_le f.seen
  have longer : failures f.content ≤ failures (f.content ++ text) := finished_le_append
  simp only [LogFile.ahead, read]
  omega

theorem failures_le_append : failures f.content ≤ failures (f.content ++ text) := finished_le_append

def grow (p : Path) (text : List UInt8) (f : LogFile) : LogFile :=
  if f.path = p then { f with content := f.content ++ text } else f

@[simp] theorem grow_path : (grow p text f).path = f.path := by
  unfold grow
  split <;> rfl

theorem grow_seen (h : f.seen ≤ f.content.length) :
    (grow p text f).seen ≤ (grow p text f).content.length := by
  unfold grow
  split
  · simp only [List.length_append]
    omega
  · exact h

theorem grow_present : present files ≤ present (files.map (grow p text)) := by
  induction files with
  | nil => exact Nat.le_refl _
  | cons f files ih =>
    have here : failures f.content ≤ failures (grow p text f).content := by
      unfold grow
      split
      · exact failures_le_append
      · exact Nat.le_refl _
    simp only [present, List.map_cons, List.sum_cons] at ih ⊢
    omega

theorem grow_unread (h : ∀ f ∈ files, f.seen ≤ f.content.length) :
    unread (files.map (grow p text)) + present files =
      unread files + present (files.map (grow p text)) := by
  induction files with
  | nil => rfl
  | cons f files ih =>
    have rest := ih fun g hg => h g (List.mem_cons_of_mem _ hg)
    have here : (grow p text f).ahead + failures f.content =
        f.ahead + failures (grow p text f).content := by
      unfold grow
      split
      · exact ahead_append (h f List.mem_cons_self)
      · rfl
    simp only [unread, present, List.map_cons, List.sum_cons] at rest ⊢
    omega

theorem append_eq : append p text files =
    if files.any (·.path == p) then files.map (grow p text) else ⟨p, text, 0⟩ :: files := rfl

theorem append_balance (p : Path) (text : List UInt8) (tidy : Tidy files) :
    present files ≤ present (append p text files) ∧
      unread (append p text files) + present files =
        unread files + present (append p text files) := by
  rw [append_eq]
  split
  · exact ⟨grow_present, grow_unread tidy.seen⟩
  · have new : (⟨p, text, 0⟩ : LogFile).ahead = failures text := ahead_of_unseen rfl
    simp only [present, unread, List.map_cons, List.sum_cons, new]
    omega

theorem append_unseen (h : ∀ f ∈ files, f.seen = 0) : ∀ f ∈ append p text files, f.seen = 0 := by
  rw [append_eq]
  split
  · intro g hg
    obtain ⟨f, hf, rfl⟩ := List.mem_map.1 hg
    unfold grow
    split <;> exact h f hf
  · intro g hg
    rcases List.mem_cons.1 hg with rfl | old
    · rfl
    · exact h g old

theorem Tidy.append (tidy : Tidy files) (named : scraped p.2 = true) :
    Tidy (append p text files) := by
  rw [append_eq]
  split
  · refine ⟨?_, ?_, ?_⟩
    · have same : (·.path) ∘ grow p text = (·.path) := funext fun _ => grow_path
      rw [List.map_map, same]
      exact tidy.apart
    · intro g hg
      obtain ⟨f, hf, rfl⟩ := List.mem_map.1 hg
      rw [grow_path]
      exact tidy.named f hf
    · intro g hg
      obtain ⟨f, hf, rfl⟩ := List.mem_map.1 hg
      exact grow_seen (tidy.seen f hf)
  · rename_i absent
    refine ⟨?_, ?_, ?_⟩
    · refine List.nodup_cons.2 ⟨?_, tidy.apart⟩
      intro mem
      obtain ⟨f, hf, same⟩ := List.mem_map.1 mem
      exact absent (List.any_eq_true.2 ⟨f, hf, by simpa using same⟩)
    · intro g hg
      rcases List.mem_cons.1 hg with rfl | old
      · exact named
      · exact tidy.named g old
    · intro g hg
      rcases List.mem_cons.1 hg with rfl | old
      · exact Nat.zero_le _
      · exact tidy.seen g old

end Files

section Renames

def move (old new : Path) (f : LogFile) : LogFile := if f.path = old then { f with path := new } else f

theorem move_path : (move old new f).path = if f.path = old then new else f.path := by
  unfold move
  split <;> rfl

@[simp] theorem move_content : (move old new f).content = f.content := by
  unfold move
  split <;> rfl

@[simp] theorem move_seen : (move old new f).seen = f.seen := by
  unfold move
  split <;> rfl

@[simp] theorem move_ahead : (move old new f).ahead = f.ahead := by
  simp [LogFile.ahead]

theorem rename_eq : rename old new files = if files.any (·.path == old) then
    (files.filter (·.path != new)).map (move old new) else files := rfl

theorem mem_rename {g : LogFile} (h : g ∈ rename old new files) :
    g ∈ files ∨ ∃ f ∈ files, g = move old new f := by
  rw [rename_eq] at h
  split at h
  · obtain ⟨f, hf, rfl⟩ := List.mem_map.1 h
    exact .inr ⟨f, (List.mem_filter.1 hf).1, rfl⟩
  · exact .inl h

theorem rename_absent (ne : old ≠ new) : ∀ g ∈ rename old new files, g.path ≠ old := by
  intro g hg
  rw [rename_eq] at hg
  split at hg
  · obtain ⟨f, _, rfl⟩ := List.mem_map.1 hg
    rw [move_path]
    split
    · exact ne.symm
    · assumption
  · rename_i absent
    intro same
    exact absent (List.any_eq_true.2 ⟨g, hg, by simpa using same⟩)

theorem unread_move : unread (files.map (move old new)) = unread files := by
  simp [unread, Function.comp_def]

theorem unread_filter (lost : ∀ f ∈ files, f.path = new → f.ahead = 0) :
    unread (files.filter (·.path != new)) = unread files := by
  induction files with
  | nil => rfl
  | cons f files ih =>
    have rest := ih fun g hg => lost g (List.mem_cons_of_mem _ hg)
    have here := lost f List.mem_cons_self
    by_cases same : f.path = new
    · rw [List.filter_cons_of_neg (by simp [same]), rest]
      simp [unread, here same]
    · rw [List.filter_cons_of_pos (by simp [same])]
      simp only [unread, List.map_cons, List.sum_cons] at rest ⊢
      omega

theorem rename_unread (spared : (∃ f ∈ files, f.path = old) →
    ∀ f ∈ files, f.path = new → f.ahead = 0) : unread (rename old new files) = unread files := by
  rw [rename_eq]
  split
  · rename_i there
    obtain ⟨g, hg, same⟩ := List.any_eq_true.1 there
    rw [unread_move, unread_filter (spared ⟨g, hg, by simpa using same⟩)]
  · rfl

theorem rename_unseen (h : ∀ f ∈ files, f.seen = 0) : ∀ f ∈ rename old new files, f.seen = 0 := by
  intro g hg
  rcases mem_rename hg with there | ⟨f, hf, rfl⟩
  · exact h g there
  · rw [move_seen]
    exact h f hf

theorem nodup_renamed {paths : List Path} (apart : paths.Nodup) (fresh : new ∉ paths) :
    (paths.map fun q => if q = old then new else q).Nodup := by
  refine apart.map_on fun q hq r hr same => ?_
  have q_new : q ≠ new := fun eq => fresh (eq ▸ hq)
  have r_new : r ≠ new := fun eq => fresh (eq ▸ hr)
  by_cases q_old : q = old
  · rw [if_pos q_old] at same
    by_cases r_old : r = old
    · exact q_old.trans r_old.symm
    · rw [if_neg r_old] at same
      exact absurd same.symm r_new
  · rw [if_neg q_old] at same
    by_cases r_old : r = old
    · rw [if_pos r_old] at same
      exact absurd same q_new
    · rwa [if_neg r_old] at same

theorem Tidy.rename (tidy : Tidy files) (named : scraped new.2 = true) :
    Tidy (rename old new files) := by
  refine ⟨?_, ?_, ?_⟩
  · rw [rename_eq]
    split
    · have paths : (files.filter (·.path != new)).map (LogFile.path ∘ move old new) =
          ((files.filter (·.path != new)).map (·.path)).map
            fun q => if q = old then new else q := by
        simp [Function.comp_def, move_path]
      have kept : ((files.filter (·.path != new)).map (·.path)).Nodup :=
        tidy.apart.sublist (List.filter_sublist.map _)
      rw [List.map_map]
      change ((files.filter (·.path != new)).map (LogFile.path ∘ move old new)).Nodup
      rw [paths]
      refine nodup_renamed kept fun mem => ?_
      obtain ⟨f, hf, same⟩ := List.mem_map.1 mem
      simpa [same] using (List.mem_filter.1 hf).2
    · exact tidy.apart
  · intro g hg
    rcases mem_rename hg with there | ⟨f, hf, rfl⟩
    · exact tidy.named g there
    · rw [move_path]
      split
      · exact named
      · exact tidy.named f hf
  · intro g hg
    rcases mem_rename hg with there | ⟨f, hf, rfl⟩
    · exact tidy.seen g there
    · rw [move_seen, move_content]
      exact tidy.seen f hf

theorem scraped_append {name : List UInt8} (suffix : List UInt8) (h : scraped name = true) :
    scraped (name ++ suffix) = true := by
  obtain ⟨word, hw, found⟩ := List.any_eq_true.1 h
  refine List.any_eq_true.2 ⟨word, hw, ?_⟩
  have inside := of_decide_eq_true found
  refine decide_eq_true (inside.trans ?_)
  rw [List.map_append]
  exact (List.prefix_append _ _).isInfix

theorem scraped_backup {i : ℕ} (h : scraped p.2 = true) : scraped (backup p i).2 = true := by
  unfold backup
  split
  · exact h
  · exact scraped_append _ h

theorem backup_ne {i : ℕ} (h : i < NUMBER_OF_BACKUP_FILES_TO_KEEP) :
    backup p i ≠ backup p (i + 1) := by
  have digits : ∀ i < NUMBER_OF_BACKUP_FILES_TO_KEEP, bytes (toString (i + 1)) ≠ [] ∧
      bytes (toString i) ≠ bytes (toString (i + 1)) := by decide
  obtain ⟨some_, apart⟩ := digits i h
  intro same
  have names := congrArg Prod.snd same
  cases i with
  | zero =>
    change p.2 = p.2 ++ _ at names
    exact some_ (List.self_eq_append_right.1 names)
  | succ i => exact apart (List.append_cancel_left names)

theorem moveBackups_eq : moveBackups p files = rename (backup p 0) (backup p 1)
    (rename (backup p 1) (backup p 2) (rename (backup p 2) (backup p 3) files)) := rfl

/-- Only the last backup can be lost: the others have been moved away. -/
theorem moveBackups_unread (spared : Spared p files) : unread (moveBackups p files) = unread files := by
  have away {old new : Path} {files : List LogFile} (h : ∀ f ∈ files, f.path ≠ new) :
      unread (rename old new files) = unread files :=
    rename_unread fun _ f hf same => absurd same (h f hf)
  have last : unread (rename (backup p 2) (backup p 3) files) = unread files := rename_unread spared
  rw [moveBackups_eq, away (rename_absent (backup_ne (by decide))),
    away (rename_absent (backup_ne (by decide))), last]

theorem rotateFiles_unread (spared : full p files → Spared p files) :
    unread (rotateFiles p files) = unread files := by
  unfold rotateFiles
  split
  · rename_i isFull
    have fresh : (⟨p, [], 0⟩ : LogFile).ahead = 0 := rfl
    have kept := moveBackups_unread (spared isFull)
    simp only [unread, List.map_cons, List.sum_cons, fresh] at kept ⊢
    omega
  · rfl

theorem rotateFiles_unseen (h : ∀ f ∈ files, f.seen = 0) :
    ∀ f ∈ rotateFiles p files, f.seen = 0 := by
  unfold rotateFiles
  split
  · have moved : ∀ g ∈ moveBackups p files, g.seen = 0 :=
      rename_unseen (rename_unseen (rename_unseen h))
    intro g hg
    rcases List.mem_cons.1 hg with rfl | old
    · rfl
    · exact moved g old
  · exact h

theorem Tidy.rotateFiles (tidy : Tidy files) (there : p ∈ files.map (·.path)) :
    Tidy (rotateFiles p files) := by
  obtain ⟨f, hf, rfl⟩ := List.mem_map.1 there
  have named := tidy.named f hf
  unfold LogCounting.rotateFiles
  split
  · have moved : Tidy (moveBackups f.path files) :=
      ((tidy.rename (scraped_backup named)).rename (scraped_backup named)).rename
        (scraped_backup named)
    have gone : ∀ g ∈ moveBackups f.path files, g.path ≠ f.path :=
      rename_absent (backup_ne (by decide))
    refine ⟨?_, ?_, ?_⟩
    · refine List.nodup_cons.2 ⟨?_, moved.apart⟩
      intro mem
      obtain ⟨g, hg, same⟩ := List.mem_map.1 mem
      exact gone g hg same
    · intro g hg
      rcases List.mem_cons.1 hg with rfl | old
      · exact named
      · exact moved.named g old
    · intro g hg
      rcases List.mem_cons.1 hg with rfl | old
      · exact Nat.zero_le _
      · exact moved.seen g old
  · exact tidy

end Renames

section Scrapes

theorem offset_setOffset {p q : Path} {n : ℕ} (ne : q ≠ p) :
    (m.setOffset p n).offset q = m.offset q := by
  have other : (p == q) = false := by simpa using ne.symm
  simp only [LogMetrics.offset, LogMetrics.setOffset, List.find?_cons, other]
  congr 2
  rw [List.find?_filter]
  congr 1
  funext entry
  by_cases same : entry.1 = q
  · simp [same, ne]
  · simp [same]

theorem scrapeLogFile_settled (settled : Settled m f) : ∃ m', scrapeLogFile f.file m = some m' ∧
    m'.registrationErrorsTotal = m.registrationErrorsTotal + f.ahead ∧
    ∀ q, q ≠ f.path → m'.offset q = m.offset q := by
  obtain ⟨read, harmless, unfinished⟩ := settled
  have parts : failures f.content = failures (f.content.take (offset m f)) +
      failures (f.content.drop (offset m f)) := by
    have whole := finished_append harmless
    rwa [List.take_append_drop] at whole
  have counted : ((f.content.drop (offset m f)).splitOn 10).countP failure =
      failures (f.content.drop (offset m f)) := by
    rw [countP_splitOn, unfinished]
    simp [failures]
  have rest : f.ahead = failures (f.content.drop (offset m f)) := by
    unfold LogFile.ahead
    omega
  by_cases none_ : f.content.length - offset m f = 0
  · have nothing : f.content.drop (offset m f) = [] := List.drop_eq_nil_of_le (by omega)
    refine ⟨m.setOffset f.path f.content.length, if_pos none_, ?_, fun q ne => offset_setOffset ne⟩
    rw [rest, nothing, failures_nil]
    rfl
  · refine ⟨_, (if_neg none_).trans (if_pos rfl), ?_, fun q ne => offset_setOffset ne⟩
    rw [rest, ← counted]
    rfl

theorem scrapeRegistrationLogs_settled (apart : (listing.map (·.path)).Nodup)
    (named : ∀ f ∈ listing, scraped f.path.2 = true) (settled : ∀ f ∈ listing, Settled m f) :
    (scrapeRegistrationLogs (listing.map (·.file)) m).1.registrationErrorsTotal =
      m.registrationErrorsTotal + unread listing := by
  induction listing generalizing m with
  | nil => rfl
  | cons f files ih =>
    obtain ⟨m', read, total, others⟩ := scrapeLogFile_settled (settled f List.mem_cons_self)
    obtain ⟨new, apart⟩ := List.nodup_cons.1 apart
    have still : ∀ g ∈ files, Settled m' g := by
      intro g hg
      have ne : g.path ≠ f.path := fun same => new (List.mem_map.2 ⟨g, hg, same⟩)
      have same : offset m' g = offset m g := by
        unfold offset
        rw [others g.path ne]
      have before := settled g (List.mem_cons_of_mem _ hg)
      unfold Settled at before ⊢
      rwa [same]
    have later := ih apart (fun g hg => named g (List.mem_cons_of_mem _ hg)) still
    have name : scraped f.file.name = true := named f List.mem_cons_self
    rw [List.map_cons, scrapeRegistrationLogs, if_pos name, read]
    simp only [later, total, unread, List.map_cons, List.sum_cons]
    omega

end Scrapes

section Invariant

theorem Initial.invariant (h : Initial w) : Invariant w where
  tidy := ⟨h.apart, h.named, fun f hf => by simp [h.unread f hf]⟩
  balance d due := by simp [h.notScraped] at due
  before _ := ⟨h.noErrors, h.unread⟩
  agree a ha := by simp [h.noAnswers] at ha

theorem Invariant.append (inv : Invariant w) (named : scraped p.2 = true) :
    Invariant (next w (.append p text)) := by
  obtain ⟨longer, balance⟩ := append_balance p text inv.tidy
  refine ⟨inv.tidy.append named, ?_, ?_, inv.agree⟩
  · intro d due
    obtain ⟨d', before, rfl⟩ := Option.map_eq_some_iff.1 due
    have now := inv.balance d' before
    simp only [next]
    omega
  · intro due
    obtain ⟨total, unseen⟩ := inv.before (Option.map_eq_none_iff.1 due)
    exact ⟨total, append_unseen unseen⟩

theorem Invariant.rotate (inv : Invariant w) (there : p ∈ w.files.map (·.path))
    (careful : w.due.isSome → full p w.files → Spared p w.files) :
    Invariant (next w (.rotate p)) := by
  refine ⟨inv.tidy.rotateFiles there, ?_, ?_, inv.agree⟩
  · intro d due
    have spared := careful (Option.isSome_iff_exists.2 ⟨d, due⟩)
    have kept := rotateFiles_unread spared
    have now := inv.balance d due
    simp only [next]
    omega
  · intro due
    obtain ⟨total, unseen⟩ := inv.before due
    exact ⟨total, rotateFiles_unseen unseen⟩

/-- Before the first scrape every complete failure line is unread. -/
theorem Invariant.due (inv : Invariant w) :
    w.logs.registrationErrorsTotal + unread w.files = w.due.getD (present w.files) := by
  cases due : w.due with
  | some d => exact inv.balance d due
  | none =>
    obtain ⟨total, unseen⟩ := inv.before due
    have all : unread w.files = present w.files := by
      refine congrArg List.sum (List.map_congr_left ?_)
      exact fun f hf => ahead_of_unseen (unseen f hf)
    rw [total, all, Nat.zero_add]
    rfl

theorem Invariant.scrape (inv : Invariant w) (listed : listing.Perm w.files)
    (settled : ∀ f ∈ w.files, Settled w.logs f) : Invariant (w.scrape listing) := by
  have apart : (listing.map (·.path)).Nodup := (listed.map _).nodup_iff.2 inv.tidy.apart
  have named : ∀ f ∈ listing, scraped f.path.2 = true := fun f hf =>
    inv.tidy.named f (listed.mem_iff.1 hf)
  have total := scrapeRegistrationLogs_settled apart named
    fun f hf => settled f (listed.mem_iff.1 hf)
  have same : unread listing = unread w.files := (listed.map _).sum_eq
  have due := inv.due
  have returned : (w.scrape listing).logs.registrationErrorsTotal =
      w.due.getD (present w.files) := by
    change (scrapeRegistrationLogs _ _).1.registrationErrorsTotal = _
    omega
  have read : unread (w.scrape listing).files = 0 := by
    simp [unread, World.scrape, Function.comp_def, LogFile.ahead]
  refine ⟨⟨?_, ?_, ?_⟩, ?_, ?_, ?_⟩
  · simpa [World.scrape, Function.comp_def] using apart
  · intro g hg
    obtain ⟨f, hf, rfl⟩ := List.mem_map.1 hg
    exact named f hf
  · intro g hg
    obtain ⟨f, _, rfl⟩ := List.mem_map.1 hg
    exact Nat.le_refl _
  · intro d now
    cases now
    rw [returned, read, Nat.add_zero]
  · intro never
    cases never
  · intro a ha
    rcases List.mem_append.1 ha with old | new
    · exact inv.agree a old
    · rw [List.mem_singleton.1 new]
      exact returned

theorem Invariant.next {a : Action} (inv : Invariant w) (enabled : Enabled w a)
    (careful : Careful w a) : Invariant (next w a) := by
  cases a with
  | append p text => exact inv.append enabled
  | rotate p => exact inv.rotate enabled careful
  | scrape listing => exact inv.scrape enabled careful

end Invariant

/-- In a run whose scrapes and rotations are careful every scrape returns what is due. -/
theorem careful_scrapes_agree (run : logging.Run log w) (careful : ∀ e ∈ log, Careful e.1 e.2) :
    Agree w := by
  have inv : Invariant w := run.invariant (fun _ => Initial.invariant)
    (fun _ _ inv enabled careful => inv.next enabled careful) careful
  exact inv.agree

namespace Sample

def path : Path := ("/root/net_port/logs", bytes "net_port.log")

def started : World := ⟨[], ⟨[], 0⟩, none, []⟩

theorem run_started : logging.Run [] started :=
  .start ⟨by decide, by decide, by decide, rfl, rfl, rfl, rfl⟩

def writes (first second : String) : List Action :=
  let whole := bytes first ++ bytes second
  [.append path (bytes first), .scrape [⟨path, bytes first, 0⟩], .append path (bytes second),
    .scrape [⟨path, whole, first.length⟩]]

def filled : List UInt8 :=
  (bytes "Authentication failed\n" ++ List.replicate SIZE_PER_LOGFILE 10) ++ [10]

def rotated : List LogFile :=
  [⟨path, bytes "Failed to allocate port\n", 0⟩, ⟨backup path 1, filled, 0⟩]

theorem rotateFiles_filled :
    rotateFiles path [⟨path, filled, 0⟩] = [⟨path, [], 0⟩, ⟨backup path 1, filled, 0⟩] := by
  have long : SIZE_PER_LOGFILE ≤ filled.length := by
    simp only [filled, List.length_append, List.length_replicate]
    omega
  generalize filled = text at long
  have whole : full path [⟨path, text, 0⟩] = true := by simp [full, long]
  rw [rotateFiles, if_pos whole]
  rfl

theorem settled_rotated (m : LogMetrics) (none_ : m.fileOffsets = []) :
    ∀ f ∈ rotated, Settled m f := by
  have start : ∀ f : LogFile, offset m f = 0 := fun f => by
    simp [offset, LogMetrics.offset, none_]
  have all : ∀ text : List UInt8, Settled m ⟨path, text ++ [10], 0⟩ ∧
      Settled m ⟨backup path 1, text ++ [10], 0⟩ := by
    intro text
    unfold Settled
    simp only [start, List.take_zero, List.drop_zero, unfinished_concat]
    exact ⟨⟨trivial, fun _ => rfl, rfl⟩, trivial, fun _ => rfl, rfl⟩
  intro f mem
  rcases List.mem_pair.1 mem with rfl | rfl
  · exact (all (bytes "Failed to allocate port")).1
  · exact (all _).2

end Sample

/-- Scrapes between two lines, and one after a rotation that has made a backup. -/
theorem whole_lines_agree :
    (∃ log w, logging.Run log w ∧ w.answers = [(1, 1), (2, 2)] ∧ Agree w) ∧
    ∃ log w, logging.Run log w ∧ w.files.map (·.path) = [Sample.path, backup Sample.path 1] ∧
      w.answers.length = 1 ∧ Agree w := by
  constructor
  · obtain ⟨log, w, run, found⟩ := Sample.run_started.follow_any
      (Sample.writes "Authentication failed\n" "Device ready\nFailed to allocate port\n")
      (fun r => decide ((∀ e ∈ r.1, Careful e.1 e.2) ∧ r.2.answers = [(1, 1), (2, 2)]))
      (by decide +kernel)
    obtain ⟨careful, answers⟩ := of_decide_eq_true found
    exact ⟨log, w, run, answers, careful_scrapes_agree run careful⟩
  · have initial : Initial ⟨[⟨Sample.path, Sample.filled, 0⟩], ⟨[], 0⟩, none, []⟩ := by
      refine ⟨?_, ?_, ?_, rfl, rfl, rfl, rfl⟩
      · exact List.nodup_singleton _
      · intro f mem
        rw [List.mem_singleton.1 mem]
        exact (by decide : scraped Sample.path.2 = true)
      · intro f mem
        rw [List.mem_singleton.1 mem]
    have moved := (System.Run.start (m := logging) initial).step (a := Action.rotate Sample.path)
      (by simp [logging, Enabled])
    have state : logging.next ⟨[⟨Sample.path, Sample.filled, 0⟩], ⟨[], 0⟩, none, []⟩
        (.rotate Sample.path) =
          ⟨[⟨Sample.path, [], 0⟩, ⟨backup Sample.path 1, Sample.filled, 0⟩], ⟨[], 0⟩, none, []⟩ := by
      simp only [logging, next, Sample.rotateFiles_filled]
    rw [state] at moved
    have grown := moved.step (a := Action.append Sample.path (bytes "Failed to allocate port\n"))
      (by decide : scraped Sample.path.2 = true)
    have files : logging.next
        ⟨[⟨Sample.path, [], 0⟩, ⟨backup Sample.path 1, Sample.filled, 0⟩], ⟨[], 0⟩, none, []⟩
        (.append Sample.path (bytes "Failed to allocate port\n")) =
          ⟨Sample.rotated, ⟨[], 0⟩, none, []⟩ := rfl
    rw [files] at grown
    have run := grown.step (a := Action.scrape Sample.rotated) (List.Perm.refl _)
    refine ⟨_, _, run, rfl, rfl, careful_scrapes_agree run ?_⟩
    simp only [List.nil_append, List.cons_append, List.forall_mem_cons, List.not_mem_nil,
      false_implies, implies_true, and_true]
    exact ⟨nofun, trivial, Sample.settled_rotated _ rfl⟩

/-- The first scrape sees the beginning of a line, the second its end. -/
theorem cut_line_missed : ¬ ∀ (log : List (World × Action)) (w : World), logging.Run log w →
    Agree w := by
  intro always
  obtain ⟨log, w, run, found⟩ := Sample.run_started.follow_any
    (Sample.writes "Authentication fai" "led\n") (fun r => decide (¬ Agree r.2))
    (by decide +kernel)
  exact of_decide_eq_true found (always log w run)

end LogCounting
