import Mathlib.Logic.Function.Basic
import NetPort.StepRuns
import NetPort.WindowLimits

/-! The limit of login attempts of `authentication-rate-limit.js`: the address that an attempt is
counted for, behind the proxy of `nginx.conf`, and the attempts that are let through. -/
namespace LoginLimits

open StepRuns WindowLimits

abbrev Text := List Char

/-- The value of a header in `req.headers`. -/
inductive Header where
  | absent
  | text (value : Text)
  | list (values : List Text)
  deriving DecidableEq

structure Req where
  method : String
  forwarded : Header
  ip : Option Text
  remoteAddress : Option Text
  deriving DecidableEq

def isSpace (c : Char) : Bool :=
  let n := c.toNat
  (9 ≤ n && n ≤ 13) || n = 32 || n = 0xA0 || n = 0x1680 || (0x2000 ≤ n && n ≤ 0x200A) ||
    n = 0x2028 || n = 0x2029 || n = 0x202F || n = 0x205F || n = 0x3000 || n = 0xFEFF

def trim (t : Text) : Text := ((t.dropWhile isSpace).reverse.dropWhile isSpace).reverse

/-- `value.split(',')[0].trim()` -/
def firstAddress (value : Text) : Text := trim (value.takeWhile (· ≠ ','))

/-- `a || b` for strings -/
def orElse (a : Option Text) (b : Text) : Text :=
  match a with
  | some (c :: t) => c :: t
  | _ => b

def unknown : Text := ['u', 'n', 'k', 'n', 'o', 'w', 'n']

def Req.address (req : Req) : Text := orElse req.ip (orElse req.remoteAddress unknown)

def resolveClientIp (req : Req) : Text :=
  match req.forwarded with
  | .text (c :: t) => firstAddress (c :: t)
  | .list (value :: _) => trim value
  | .text [] => req.address
  | .list [] => req.address
  | .absent => req.address

/-- The map from an address to the `hits` of its bucket. -/
abbrev Buckets := Text → Option (List ℤ)

structure Options where
  windowMs : ℤ
  max : ℕ

structure Refusal where
  status : ℕ
  name : String
  message : String
  code : ℕ
  deriving DecidableEq

def tooManyRequests : Refusal where
  status := 429
  name := "TooManyRequests"
  message := "Too many login attempts. Please try again later."
  code := 429

/-- `next()`, or the answer in place of it. -/
inductive Answer where
  | next
  | refused (r : Refusal)
  deriving DecidableEq

def pruneBucket (hits : List ℤ) (now windowMs : ℤ) : List ℤ :=
  hits.filter fun timestamp => now - timestamp < windowMs

def authenticationRateLimit (options : Options) (req : Req) (now : ℤ) (buckets : Buckets) :
    Answer × Buckets :=
  if req.method ≠ "POST" then (.next, buckets)
  else
    let ip := resolveClientIp req
    let hits := pruneBucket ((buckets ip).getD []) now options.windowMs
    if options.max ≤ hits.length then
      (.refused tooManyRequests, Function.update buckets ip (some hits))
    else (.next, Function.update buckets ip (some (hits ++ [now])))

def authenticationRateLimitDisabled (buckets : Buckets) : Answer × Buckets := (.next, buckets)

def createAuthenticationRateLimiter (isRateLimitEnabled : Bool) (options : Options) (req : Req)
    (now : ℤ) (buckets : Buckets) : Answer × Buckets :=
  if isRateLimitEnabled then authenticationRateLimit options req now buckets
  else authenticationRateLimitDisabled buckets

structure Attempt where
  req : Req
  now : ℤ
  deriving DecidableEq

def limiter (options : Options) : System Buckets Attempt where
  initial buckets := buckets = fun _ => none
  enabled _ a := a.req.method = "POST"
  next buckets a := (createAuthenticationRateLimiter true options a.req a.now buckets).2

instance (options : Options) (b : Buckets) (a : Attempt) :
    Decidable ((limiter options).enabled b a) := inferInstanceAs (Decidable (_ = _))

/-- The steps of a run: the buckets that an attempt finds, and the attempt. -/
abbrev Log := List (Buckets × Attempt)

def accepted (options : Options) (e : Buckets × Attempt) : Bool :=
  (createAuthenticationRateLimiter true options e.2.req e.2.now e.1).1 = .next

def acceptedTimes (options : Options) (ip : Text) (log : Log) : List ℤ :=
  (log.filter fun e => resolveClientIp e.2.req = ip ∧ accepted options e).map (·.2.now)

def Nondecreasing (log : Log) : Prop := log.Pairwise fun e e' => e.2.now ≤ e'.2.now

instance (log : Log) : Decidable (Nondecreasing log) :=
  inferInstanceAs (Decidable (List.Pairwise _ log))

/-- No window holds more accepted attempts for the address than the limit, and an attempt is refused
only for as many in the window that it ends. -/
structure Limited (options : Options) (ip : Text) (log : Log) : Prop where
  window : ∀ a, within a options.windowMs (acceptedTimes options ip log) ≤ options.max
  refused : ∀ earlier later e, log = earlier ++ e :: later → resolveClientIp e.2.req = ip →
    accepted options e = false →
      options.max ≤ recent e.2.now options.windowMs (acceptedTimes options ip earlier)

variable {options : Options} {ip : Text} {buckets : Buckets} {a : Attempt} {log earlier later : Log}
  {e : Buckets × Attempt} {now last : ℤ}

/-- The attempt works on the bucket of its address as the sliding log does. -/
theorem attempt_slide (options : Options) (buckets : Buckets) (post : a.req.method = "POST") :
    accepted options (buckets, a) =
        (slide options.windowMs options.max a.now
          ((buckets (resolveClientIp a.req)).getD [])).1 ∧
      (limiter options).next buckets a = Function.update buckets (resolveClientIp a.req)
        (some (slide options.windowMs options.max a.now
          ((buckets (resolveClientIp a.req)).getD [])).2) := by
  have same : ¬ a.req.method ≠ "POST" := fun other => other post
  simp only [accepted, limiter, createAuthenticationRateLimiter, if_true, authenticationRateLimit,
    if_neg same, pruneBucket, slide]
  generalize (buckets (resolveClientIp a.req)).getD [] = hits
  by_cases full : options.max ≤ (hits.filter (a.now - · < options.windowMs)).length
  · simp [full]
  · simp [full]

theorem acceptedTimes_snoc (options : Options) (ip : Text) (log : Log) (e : Buckets × Attempt) :
    acceptedTimes options ip (log ++ [e]) = acceptedTimes options ip log ++
      if resolveClientIp e.2.req = ip ∧ accepted options e then [e.2.now] else [] := by
  unfold acceptedTimes
  rw [List.filter_append, List.map_append]
  by_cases counted : resolveClientIp e.2.req = ip ∧ accepted options e
  · simp [counted]
  · simp [counted]

/-- The bucket of an address holds those of its accepted attempts that still count. -/
def Counted (options : Options) (ip : Text) (log : Log) (buckets : Buckets) (now : ℤ) : Prop :=
  Logged options.windowMs (acceptedTimes options ip log) now ((buckets ip).getD [])

theorem Counted.step (counted : Counted options ip log buckets last) (post : a.req.method = "POST")
    (later : last ≤ a.now) :
    Counted options ip (log ++ [(buckets, a)]) ((limiter options).next buckets a) a.now := by
  obtain ⟨verdict, next⟩ := attempt_slide options buckets post
  unfold Counted
  rw [acceptedTimes_snoc, next]
  by_cases own : resolveClientIp a.req = ip
  · subst own
    rw [Function.update_self, Option.getD_some]
    have slid := Logged.slide counted options.max later
    rw [← verdict] at slid
    simp only [true_and]
    split at slid
    · rename_i yes
      rwa [if_pos yes]
    · rename_i no
      rwa [if_neg no, List.append_nil]
  · have other : ¬ (resolveClientIp a.req = ip ∧ accepted options (buckets, a)) :=
      fun both => own both.1
    rw [if_neg other, List.append_nil, Function.update_of_ne (Ne.symm own)]
    exact fun now after => counted now (later.trans after)

theorem Nondecreasing.split (clock : Nondecreasing (earlier ++ e :: later)) :
    Nondecreasing earlier ∧ ∀ e' ∈ earlier, e'.2.now ≤ e.2.now := pairwise_split clock

theorem counted (run : (limiter options).Run log buckets) (ip : Text) (clock : Nondecreasing log)
    (past : ∀ e ∈ log, e.2.now ≤ now) : Counted options ip log buckets now := by
  induction run generalizing now with
  | start initial =>
    rw [show _ = fun _ => none from initial]
    intro _ _
    rfl
  | @step log buckets a _ enabled ih =>
    have before := ih clock.split.1 clock.split.2
    have here := before.step enabled (le_refl _)
    have after : a.now ≤ now := past (buckets, a) (by simp)
    exact fun now' later => here now' (after.trans later)

/-- An attempt is accepted if the address has fewer accepted attempts in the window. -/
theorem accepted_iff (run : (limiter options).Run (earlier ++ e :: later) buckets)
    (clock : Nondecreasing (earlier ++ e :: later)) :
    accepted options e = true ↔
      recent e.2.now options.windowMs (acceptedTimes options (resolveClientIp e.2.req) earlier) <
        options.max := by
  obtain ⟨before, post⟩ := run.split
  rw [(attempt_slide options e.1 post).1]
  exact slide_accepts (counted before _ clock.split.1 clock.split.2) (le_refl _)

theorem window_bound (run : (limiter options).Run log buckets) (clock : Nondecreasing log)
    (ip : Text) (a : ℤ) :
    within a options.windowMs (acceptedTimes options ip log) ≤ options.max := by
  induction run with
  | start => exact Nat.zero_le _
  | @step log buckets attempt run enabled ih =>
    have before := ih clock.split.1
    rw [acceptedTimes_snoc]
    split
    · rename_i counts
      have whole : (limiter options).Run (log ++ (buckets, attempt) :: []) _ := run.step enabled
      have room := (accepted_iff whole clock).1 counts.2
      rw [counts.1] at room
      exact within_accept before room
    · rwa [List.append_nil]

/-- Whatever attempts there are, each address is limited as configured. -/
theorem attempts_limited (options : Options) (run : (limiter options).Run log buckets)
    (clock : Nondecreasing log) (ip : Text) : Limited options ip log := by
  refine ⟨window_bound run clock ip, fun earlier later e steps own no => ?_⟩
  subst steps own
  by_contra few
  have yes := (accepted_iff run clock).2 (Nat.lt_of_not_le few)
  rw [no] at yes
  cases yes

section Proxy

/-- `$proxy_add_x_forwarded_for`: the header that the client sent, if any, and its address. -/
def proxyAddXForwardedFor (received : Option Text) (remoteAddr : Text) : Text :=
  match received with
  | none => remoteAddr
  | some value => value ++ ',' :: ' ' :: remoteAddr

def loopback : Text := ['1', '2', '7', '.', '0', '.', '0', '.', '1']

/-- A login attempt of a client with the address `peer`, as it arrives at the backend; with
`trust proxy` the address of the request is the first one of the header. -/
def proxied (peer : Text) (received : Option Text) : Req where
  method := "POST"
  forwarded := .text (proxyAddXForwardedFor received peer)
  ip := some (firstAddress (proxyAddXForwardedFor received peer))
  remoteAddress := some loopback

def countedFor (peer : Text) (received : Option Text) : Text :=
  resolveClientIp (proxied peer received)

/-- The first element of the header that nginx forwards; an empty one leaves the address of
nginx. -/
def firstForwarded (peer : Text) (received : Option Text) : Text :=
  match received with
  | some value => firstAddress value
  | none => if peer = [] then loopback else firstAddress peer

def attemptsWith (peer : Text) (headers : List (Option Text)) (times : List ℤ) : List Attempt :=
  List.zipWith (fun h now => ⟨proxied peer h, now⟩) headers times

def answers (options : Options) : List Attempt → Buckets → List Answer
  | [], _ => []
  | a :: attempts, buckets =>
    let (answer, buckets) := createAuthenticationRateLimiter true options a.req a.now buckets
    answer :: answers options attempts buckets

def bucketsAfter (options : Options) : List Attempt → Buckets → Buckets
  | [], buckets => buckets
  | a :: attempts, buckets => bucketsAfter options attempts ((limiter options).next buckets a)

/-- Two sequences of attempts that differ in the headers the client sent: at whatever times, they
are answered alike, and all are counted in one bucket. -/
structure Ignored (peer : Text) (headers : List (Option Text × Option Text)) : Prop where
  answers : ∀ options times, times.Pairwise (· ≤ ·) →
    LoginLimits.answers options (attemptsWith peer (headers.map (·.1)) times) (fun _ => none) =
      LoginLimits.answers options (attemptsWith peer (headers.map (·.2)) times) fun _ => none
  bucket : ∃ ip, ∀ options times, times.Pairwise (· ≤ ·) → ∀ other, other ≠ ip →
    bucketsAfter options (attemptsWith peer (headers.map (·.1)) times) (fun _ => none) other =
        none ∧
      bucketsAfter options (attemptsWith peer (headers.map (·.2)) times) (fun _ => none) other =
        none

variable {peer : Text} {headers : List (Option Text)} {times : List ℤ} {attempts : List Attempt}

theorem takeWhile_comma (value rest : Text) :
    (value ++ ',' :: rest).takeWhile (· ≠ ',') = value.takeWhile (· ≠ ',') := by
  induction value with
  | nil => simp
  | cons c value ih =>
    by_cases comma : c = ','
    · simp [comma]
    · simpa [comma] using ih

theorem countedFor_chosen (peer value : Text) :
    countedFor peer (some value) = firstAddress value := by
  have first : firstAddress (value ++ ',' :: ' ' :: peer) = firstAddress value :=
    congrArg trim (takeWhile_comma value _)
  unfold countedFor resolveClientIp
  simp only [proxied, proxyAddXForwardedFor]
  rw [← first]
  cases value with
  | nil => rfl
  | cons c value => rfl

theorem countedFor_eq (peer : Text) (received : Option Text) :
    countedFor peer received = firstForwarded peer received := by
  cases received with
  | some value => exact countedFor_chosen peer value
  | none => cases peer <;> rfl

theorem attempt_present (options : Options) (buckets : Buckets) (post : a.req.method = "POST") :
    (limiter options).next buckets a (resolveClientIp a.req) ≠ none := by
  rw [(attempt_slide options buckets post).2, Function.update_self]
  exact Option.some_ne_none _

theorem attempt_elsewhere (options : Options) (buckets : Buckets) (post : a.req.method = "POST")
    (other : resolveClientIp a.req ≠ ip) : (limiter options).next buckets a ip = buckets ip := by
  rw [(attempt_slide options buckets post).2, Function.update_of_ne (Ne.symm other)]

theorem attempt_keeps (options : Options) (post : a.req.method = "POST")
    (present : buckets ip ≠ none) : (limiter options).next buckets a ip ≠ none := by
  by_cases own : resolveClientIp a.req = ip
  · rw [← own]
    exact attempt_present options buckets post
  · rwa [attempt_elsewhere options buckets post own]

theorem bucketsAfter_keeps (options : Options) (attempts : List Attempt)
    (posts : ∀ a ∈ attempts, a.req.method = "POST") (present : buckets ip ≠ none) :
    bucketsAfter options attempts buckets ip ≠ none := by
  induction attempts generalizing buckets with
  | nil => exact present
  | cons a attempts ih =>
    exact ih (fun a mem => posts a (List.mem_cons_of_mem _ mem))
      (attempt_keeps options (posts a (by simp)) present)

theorem bucketsAfter_present (options : Options) (buckets : Buckets)
    (posts : ∀ a ∈ attempts, a.req.method = "POST") (mem : a ∈ attempts) :
    bucketsAfter options attempts buckets (resolveClientIp a.req) ≠ none := by
  induction attempts generalizing buckets with
  | nil => cases mem
  | cons a' attempts ih =>
    have posts' : ∀ a ∈ attempts, a.req.method = "POST" :=
      fun a mem => posts a (List.mem_cons_of_mem _ mem)
    rcases List.mem_cons.1 mem with rfl | later
    · have here := attempt_present options buckets (posts a (by simp))
      exact bucketsAfter_keeps options attempts posts' here
    · exact ih _ posts' later

theorem bucketsAfter_elsewhere (options : Options) (buckets : Buckets)
    (posts : ∀ a ∈ attempts, a.req.method = "POST")
    (others : ∀ a ∈ attempts, resolveClientIp a.req ≠ ip) :
    bucketsAfter options attempts buckets ip = buckets ip := by
  induction attempts generalizing buckets with
  | nil => rfl
  | cons a attempts ih =>
    have rest := ih ((limiter options).next buckets a)
      (fun a mem => posts a (List.mem_cons_of_mem _ mem))
      fun a mem => others a (List.mem_cons_of_mem _ mem)
    rw [bucketsAfter, rest, attempt_elsewhere options buckets (posts a (by simp))
      (others a (by simp))]

theorem attemptsWith_cons (peer : Text) (h : Option Text) (headers : List (Option Text)) (now : ℤ)
    (times : List ℤ) : attemptsWith peer (h :: headers) (now :: times) =
      ⟨proxied peer h, now⟩ :: attemptsWith peer headers times := rfl

theorem mem_attemptsWith (mem : a ∈ attemptsWith peer headers times) :
    ∃ h ∈ headers, a.req = proxied peer h := by
  induction headers generalizing times with
  | nil => simp [attemptsWith] at mem
  | cons h headers ih =>
    cases times with
    | nil => simp [attemptsWith] at mem
    | cons now times =>
      rw [attemptsWith_cons, List.mem_cons] at mem
      rcases mem with rfl | later
      · exact ⟨h, by simp, rfl⟩
      · obtain ⟨h', mem', same⟩ := ih later
        exact ⟨h', List.mem_cons_of_mem _ mem', same⟩

theorem attemptsWith_posts : ∀ a ∈ attemptsWith peer headers times, a.req.method = "POST" := by
  intro a mem
  obtain ⟨h, _, same⟩ := mem_attemptsWith mem
  rw [same]
  rfl

theorem createAuthenticationRateLimiter_congr {h h' : Option Text} (options : Options) (now : ℤ)
    (buckets : Buckets) (same : countedFor peer h = countedFor peer h') :
    createAuthenticationRateLimiter true options (proxied peer h) now buckets =
      createAuthenticationRateLimiter true options (proxied peer h') now buckets := by
  have address : resolveClientIp (proxied peer h) = resolveClientIp (proxied peer h') := same
  simp only [createAuthenticationRateLimiter, authenticationRateLimit, address]
  rfl

theorem answers_congr {pairs : List (Option Text × Option Text)} (options : Options)
    (times : List ℤ) (buckets : Buckets)
    (same : ∀ p ∈ pairs, countedFor peer p.1 = countedFor peer p.2) :
    answers options (attemptsWith peer (pairs.map (·.1)) times) buckets =
      answers options (attemptsWith peer (pairs.map (·.2)) times) buckets := by
  induction pairs generalizing times buckets with
  | nil => rfl
  | cons p pairs ih =>
    cases times with
    | nil => rfl
    | cons now times =>
      have here := createAuthenticationRateLimiter_congr options now buckets (same p (by simp))
      simp only [List.map_cons, attemptsWith_cons, answers, here]
      rw [ih _ _ fun p mem => same p (List.mem_cons_of_mem _ mem)]

/-- In a bucket of its own is every request whose address is not that of the others. -/
theorem countedFor_of_bucket (options : Options) (present : headers.length ≤ times.length)
    (one : ∀ other, other ≠ ip →
      bucketsAfter options (attemptsWith peer headers times) (fun _ => none) other = none) :
    ∀ h ∈ headers, countedFor peer h = ip := by
  intro h mem
  by_contra other
  have attempt : ∃ a ∈ attemptsWith peer headers times, a.req = proxied peer h := by
    clear one
    induction headers generalizing times with
    | nil => cases mem
    | cons h' headers ih =>
      cases times with
      | nil => simp at present
      | cons now times =>
        rw [attemptsWith_cons]
        rcases List.mem_cons.1 mem with rfl | later
        · exact ⟨_, List.mem_cons_self .., rfl⟩
        · obtain ⟨a, there, same⟩ := ih (by simpa using present) later
          exact ⟨a, List.mem_cons_of_mem _ there, same⟩
  obtain ⟨a, there, same⟩ := attempt
  have left := bucketsAfter_present options (fun _ => none) attemptsWith_posts there
  rw [same] at left
  exact left (one _ other)

/-- The headers make no difference exactly when the forwarded ones have one first element. -/
theorem headers_ignored_iff (peer : Text) (headers : List (Option Text × Option Text)) :
    Ignored peer headers ↔
      ∀ p ∈ headers, ∀ q ∈ headers, firstForwarded peer p.1 = firstForwarded peer q.1 ∧
        firstForwarded peer p.1 = firstForwarded peer q.2 := by
  simp only [← countedFor_eq]
  constructor
  · rintro ⟨-, ip, one⟩ p memP q memQ
    have times : (List.replicate headers.length (0 : ℤ)).Pairwise (· ≤ ·) := by
      simp [List.pairwise_replicate]
    have first := countedFor_of_bucket ⟨1, 1⟩ (by simp)
      fun other ne => (one ⟨1, 1⟩ _ times other ne).1
    have second := countedFor_of_bucket ⟨1, 1⟩ (by simp)
      fun other ne => (one ⟨1, 1⟩ _ times other ne).2
    rw [first _ (List.mem_map_of_mem memP), first _ (List.mem_map_of_mem memQ),
      second _ (List.mem_map_of_mem memQ)]
    exact ⟨rfl, rfl⟩
  · intro one
    have alike : ∀ p ∈ headers, countedFor peer p.1 = countedFor peer p.2 :=
      fun p mem => (one p mem p mem).2
    refine ⟨fun options times _ => answers_congr options times _ alike, ?_⟩
    cases headers with
    | nil => exact ⟨[], fun _ _ _ _ _ => ⟨rfl, rfl⟩⟩
    | cons p headers =>
      refine ⟨countedFor peer p.1, fun options times _ other ne => ⟨?_, ?_⟩⟩
      · refine bucketsAfter_elsewhere options _ attemptsWith_posts fun a mem same => ?_
        obtain ⟨h, there, req⟩ := mem_attemptsWith mem
        obtain ⟨q, mem', rfl⟩ := List.mem_map.1 there
        rw [req] at same
        exact ne (same.symm.trans (one p (by simp) q mem').1.symm)
      · refine bucketsAfter_elsewhere options _ attemptsWith_posts fun a mem same => ?_
        obtain ⟨h, there, req⟩ := mem_attemptsWith mem
        obtain ⟨q, mem', rfl⟩ := List.mem_map.1 there
        rw [req] at same
        exact ne (same.symm.trans (one p (by simp) q mem').2.symm)

namespace Sample

def client : Text := ['1', '0', '.', '0', '.', '0', '.', '1']

def defaults : Options := ⟨15 * 60 * 1000, 20⟩

def varied : List (Option Text × Option Text) :=
  (List.range 21).map fun i => (none, some (List.replicate i 'x'))

def clock (i : ℕ) : ℤ := 1000 + i

end Sample

/-- Twenty-one attempts, of which the last is refused or not. -/
theorem headers_evade : ¬ ∀ (peer : Text) (headers : List (Option Text × Option Text)),
    Ignored peer headers := by
  intro always
  have same := (always Sample.client Sample.varied).answers Sample.defaults
    ((List.range 21).map Sample.clock) (by decide +kernel)
  exact absurd same (by decide +kernel)

/-- Twenty-five attempts from one address, and one from another. -/
theorem attempts_limited_one : ∃ log buckets, (limiter Sample.defaults).Run log buckets ∧
    log.length = 26 ∧ Limited Sample.defaults Sample.client log := by
  obtain ⟨log, buckets, run, test⟩ :=
    (System.Run.start (m := limiter Sample.defaults) rfl).follow_any
      (⟨proxied loopback none, 1000⟩ ::
        (List.range 25).map fun i => ⟨proxied Sample.client none, Sample.clock i⟩)
      (fun r => decide (r.1.length = 26) && decide (Nondecreasing r.1)) (by decide +kernel)
  simp only [Bool.and_eq_true, decide_eq_true_eq] at test
  exact ⟨log, buckets, run, test.1, attempts_limited Sample.defaults run test.2 Sample.client⟩

end Proxy

end LoginLimits
