import PLoadtesting.Lib.Python
import Mathlib.Data.List.TakeWhile

/-!
Splitting a URL as the Python 3.11 standard library does
(`urllib.parse.urlsplit`, the `hostname` and `port` of its result, and the
address check of `ipaddress` for bracketed hosts).

The path parameters that `urlparse` cuts off the path of a few schemes are left
in the path: host and port do not depend on them.
-/

namespace Python.Url

open Python

/-- `SplitResult`. -/
structure SplitResult where
  scheme : String
  netloc : String
  path : String
  query : String
  fragment : String
deriving DecidableEq, Repr

/-! ### Cutting text -/

/-- `s.partition(c)`: the text before the first `c`, whether there is one, and
the text after it. -/
def partition (c : Char) : List Char → List Char × Bool × List Char
  | [] => ([], false, [])
  | x :: rest =>
      if x = c then ([], true, rest)
      else
        let (head, found, tail) := partition c rest
        (x :: head, found, tail)

/-- The text after the last `c`, all of it when there is none:
`s.rpartition(c)[2]`. -/
def afterLast (c : Char) (cs : List Char) : List Char :=
  (cs.reverse.takeWhile (· ≠ c)).reverse

/-- `s.split(c)`. -/
def splitOn (c : Char) : List Char → List (List Char)
  | [] => [[]]
  | x :: rest =>
      if x = c then [] :: splitOn c rest
      else
        match splitOn c rest with
        | [] => [[x]]
        | first :: others => (x :: first) :: others

theorem partition_of_notMem {c : Char} {cs : List Char} (absent : c ∉ cs) :
    partition c cs = (cs, false, []) := by
  induction cs with
  | nil => rfl
  | cons x rest ih =>
      obtain ⟨other, absent⟩ := List.ne_and_not_mem_of_not_mem_cons absent
      simp only [partition, if_neg other.symm, ih absent]

theorem splitOn_of_notMem {c : Char} {cs : List Char} (absent : c ∉ cs) :
    splitOn c cs = [cs] := by
  induction cs with
  | nil => rfl
  | cons x rest ih =>
      obtain ⟨other, absent⟩ := List.ne_and_not_mem_of_not_mem_cons absent
      simp only [splitOn, if_neg other.symm, ih absent]

/-- The first part ends before the first separator. -/
theorem splitOn_append {c : Char} {front : List Char} (absent : c ∉ front) (rest : List Char) :
    splitOn c (front ++ c :: rest) = front :: splitOn c rest := by
  induction front with
  | nil => exact if_pos rfl
  | cons x front ih =>
      obtain ⟨other, absent⟩ := List.ne_and_not_mem_of_not_mem_cons absent
      simp only [List.cons_append, splitOn, if_neg other.symm, ih absent]

/-- What is cut off where a condition first fails. -/
theorem takeWhile_eq_and_dropWhile_eq_iff {p : Char → Bool} {cs front rest : List Char} :
    cs.takeWhile p = front ∧ cs.dropWhile p = rest ↔
      cs = front ++ rest ∧ (∀ c ∈ front, p c = true) ∧ ∀ c ∈ rest.head?, p c = false := by
  constructor
  · rintro ⟨rfl, rfl⟩
    refine ⟨List.takeWhile_append_dropWhile.symm, fun _ mem => List.mem_takeWhile_imp mem, ?_⟩
    intro c first
    have fails := List.head?_dropWhile_not p cs
    rw [first] at fails
    exact fails
  · rintro ⟨rfl, all, stop⟩
    have none : rest.takeWhile p = [] ∧ rest.dropWhile p = rest := by
      cases rest with
      | nil => exact ⟨rfl, rfl⟩
      | cons c rest =>
          have fails := stop c rfl
          exact ⟨List.takeWhile_cons_of_neg (by simp [fails]),
            List.dropWhile_cons_of_neg (by simp [fails])⟩
    rw [List.takeWhile_append_of_pos all, List.dropWhile_append_of_pos all, none.1, none.2]
    exact ⟨List.append_nil front, rfl⟩

theorem takeWhile_eq_iff {p : Char → Bool} {cs front : List Char} :
    cs.takeWhile p = front ↔
      ∃ rest, cs = front ++ rest ∧ (∀ c ∈ front, p c = true) ∧ ∀ c ∈ rest.head?, p c = false := by
  constructor
  · intro taken
    exact ⟨_, takeWhile_eq_and_dropWhile_eq_iff.mp ⟨taken, rfl⟩⟩
  · rintro ⟨rest, cut⟩
    exact (takeWhile_eq_and_dropWhile_eq_iff.mpr cut).1

theorem partition_append {c : Char} {front : List Char} (absent : c ∉ front)
    (rest : List Char) : partition c (front ++ c :: rest) = (front, true, rest) := by
  induction front with
  | nil => exact if_pos rfl
  | cons x front ih =>
      obtain ⟨other, absent⟩ := List.ne_and_not_mem_of_not_mem_cons absent
      simp only [List.cons_append, partition, if_neg other.symm, ih absent]

/-- The text after the last `c`. -/
theorem afterLast_append {c : Char} (front : List Char) {rest : List Char} (absent : c ∉ rest) :
    afterLast c (front ++ c :: rest) = rest := by
  have split : (front ++ c :: rest).reverse.takeWhile (fun x => decide (x ≠ c)) = rest.reverse := by
    refine takeWhile_eq_iff.mpr ⟨c :: front.reverse, by simp, ?_⟩
    simpa using fun x mem => ne_of_mem_of_not_mem mem absent
  unfold afterLast
  rw [split, List.reverse_reverse]

/-- The text before the first `c`. -/
theorem partition_fst (c : Char) (cs : List Char) :
    (partition c cs).1 = cs.takeWhile fun x => decide (x ≠ c) := by
  by_cases mem : c ∈ cs
  · obtain ⟨front, rest, rfl, absent⟩ := List.eq_append_cons_of_mem mem
    rw [partition_append absent]
    refine (takeWhile_eq_iff.mpr ⟨c :: rest, rfl, ?_, ?_⟩).symm
    · exact fun x mem => decide_eq_true fun same => absent (same ▸ mem)
    · rintro x ⟨⟩
      exact decide_eq_false fun other => other rfl
  · rw [partition_of_notMem mem]
    refine (takeWhile_eq_iff.mpr ⟨[], (List.append_nil cs).symm, ?_, nofun⟩).symm
    exact fun x inCs => decide_eq_true fun same => mem (same ▸ inCs)

/-- The first part of a split text. -/
theorem splitOn_cons {c : Char} {cs first : List Char} {others : List (List Char)}
    (split : splitOn c cs = first :: others) :
    ∃ more, cs = first ++ more ∧ c ∉ first ∧ ∀ x ∈ more.head?, x = c := by
  by_cases mem : c ∈ cs
  · obtain ⟨front, rest, rfl, absent⟩ := List.eq_append_cons_of_mem mem
    rw [splitOn_append absent] at split
    cases split
    exact ⟨c :: rest, rfl, absent, fun x here => (Option.some.inj here).symm⟩
  · rw [splitOn_of_notMem mem] at split
    cases split
    exact ⟨[], (List.append_nil cs).symm, mem, nofun⟩

/-- The first two parts of a split text. -/
theorem exists_splitOn_eq_iff {c : Char} {cs first second : List Char} :
    (∃ others, splitOn c cs = first :: second :: others) ↔
      ∃ more, cs = first ++ c :: (second ++ more) ∧ c ∉ first ∧ c ∉ second ∧
        ∀ x ∈ more.head?, x = c := by
  constructor
  · rintro ⟨others, split⟩
    by_cases mem : c ∈ cs
    · obtain ⟨front, rest, rfl, absent⟩ := List.eq_append_cons_of_mem mem
      rw [splitOn_append absent, List.cons.injEq] at split
      obtain ⟨rfl, split⟩ := split
      obtain ⟨more, rfl, absent', stop⟩ := splitOn_cons split
      exact ⟨more, rfl, absent, absent', stop⟩
    · rw [splitOn_of_notMem mem] at split
      cases split
  · rintro ⟨more, rfl, absent, absent', stop⟩
    rw [splitOn_append absent]
    cases more with
    | nil =>
        rw [List.append_nil, splitOn_of_notMem absent']
        exact ⟨[], rfl⟩
    | cons x more =>
        cases stop x rfl
        rw [splitOn_append absent']
        exact ⟨_, rfl⟩

/-! ### Bracketed hosts -/

def isHexDigit (c : Char) : Bool := c.isDigit || ('a' ≤ c && c ≤ 'f') || ('A' ≤ c && c ≤ 'F')

/-- `IPv4Address._parse_octet`: up to three ASCII digits without a leading zero,
at most 255. -/
def isOctet (cs : List Char) : Bool :=
  !cs.isEmpty && cs.all Char.isDigit && decide (cs.length ≤ 3) &&
    (cs == ['0'] || cs.head? != some '0') &&
    decide (cs.foldl (fun n c => 10 * n + (c.toNat - '0'.toNat)) 0 ≤ 255)

/-- `IPv4Address(…)` accepts the text. -/
def isIPv4 (cs : List Char) : Bool :=
  let octets := splitOn '.' cs
  decide (octets.length = 4) && octets.all isOctet

/-- `IPv6Address._parse_hextet`. -/
def isHextet (cs : List Char) : Bool :=
  !cs.isEmpty && cs.all isHexDigit && decide (cs.length ≤ 4)

/-- The colon-separated parts of an IPv6 address; an IPv4 tail counts as two. -/
def hextets (cs : List Char) : Option (List (List Char)) :=
  let parts := splitOn ':' cs
  if parts.length < 3 then none
  else
    match parts.reverse with
    | last :: front =>
        if last.contains '.' then
          if isIPv4 last then some (front.reverse ++ [['0'], ['0']]) else none
        else some parts
    | [] => none

/-- `IPv6Address._ip_int_from_string` accepts the text: eight hextets, or fewer
around one `::`. An empty part at an end belongs to a `::` there. -/
def isIPv6Body (cs : List Char) : Bool :=
  match hextets cs with
  | none => false
  | some parts =>
      let inner := (parts.drop 1).dropLast
      if parts.length > 9 then false
      else
        match inner.findIdx? List.isEmpty with
        | none => decide (parts.length = 8) && parts.all isHextet
        | some i =>
            let skip := i + 1
            let hi := parts.take skip
            let lo := parts.drop (skip + 1)
            let hi' := if hi.head? = some [] then hi.drop 1 else hi
            let lo' := if lo.getLast? = some [] then lo.dropLast else lo
            !(inner.drop (i + 1)).any List.isEmpty &&
              (hi.head? ≠ some [] || hi'.isEmpty) &&
              (lo.getLast? ≠ some [] || lo'.isEmpty) &&
              decide (hi'.length + lo'.length < 8) && hi'.all isHextet && lo'.all isHextet

/-- `ipaddress.ip_address(host)` is an IPv6 address. A scope follows a percent
sign. -/
def isIPv6 (cs : List Char) : Bool :=
  let (addr, zoned, scope) := partition '%' cs
  !cs.contains '/' && isIPv6Body addr && (!zoned || (!scope.isEmpty && !scope.contains '%'))

/-- `_check_bracketed_host`: an IPv6 address or an `IPvFuture` text
`v<hex>.<anything but a line break>`. -/
def bracketedHostOk (cs : List Char) : Bool :=
  match cs with
  | 'v' :: rest =>
      let (version, dotted, tail) := partition '.' rest
      dotted && !version.isEmpty && version.all isHexDigit && !tail.isEmpty && !tail.contains '\n'
  | _ => isIPv6 cs

/-! ### Splitting -/

/-- A character of a scheme: `scheme_chars`. -/
def isSchemeChar (c : Char) : Bool := c.isAlphanum || c == '+' || c == '-' || c == '.'

/-- The scheme in front of the first colon, in lower case, and the rest. -/
def splitScheme (cs : List Char) : List Char × List Char :=
  let (head, found, tail) := partition ':' cs
  match head with
  | first :: _ =>
      if found && first.isAlpha && head.all isSchemeChar then (head.map Char.toLower, tail)
      else ([], cs)
  | [] => ([], cs)

/-- `_splitnetloc(url, 2)` after a `//`. -/
def splitNetloc (cs : List Char) : List Char × List Char :=
  cs.span fun c => c ≠ '/' ∧ c ≠ '?' ∧ c ≠ '#'

/-- `_checknetloc`: compatibility characters may not hide a delimiter. -/
def netlocOk [Runtime] (netloc : List Char) : Bool :=
  netloc.all (fun c => c.val.toNat < 128) ||
    let n := String.ofList (netloc.filter fun c => !"@:#?".toList.contains c)
    let normal := Runtime.nfkc n
    n = normal || !normal.toList.any fun c => "/?#@:".toList.contains c

/-- Leading control characters and blanks go, tabs and line breaks go
everywhere. -/
def cleaned (url : String) : List Char :=
  (url.toList.dropWhile fun c => c.val.toNat ≤ 32).filter fun c => c ≠ '\t' ∧ c ≠ '\r' ∧ c ≠ '\n'

theorem filter_of_visible {cs : List Char} (visible : ∀ c ∈ cs, 32 < c.val.toNat) :
    (cs.filter fun c => c ≠ '\t' ∧ c ≠ '\r' ∧ c ≠ '\n') = cs := by
  refine List.filter_eq_self.mpr ?_
  intro c mem
  have here := visible c mem
  refine decide_eq_true ⟨?_, ?_, ?_⟩
  all_goals
    rintro rfl
    exact absurd here (by decide)

/-- Visible text in front stays, and the rest loses its tabs and line breaks. -/
theorem cleaned_append {url : String} {front rest : List Char}
    (chars : url.toList = front ++ rest) (nonempty : front ≠ [])
    (visible : ∀ c ∈ front, 32 < c.val.toNat) :
    cleaned url = front ++ rest.filter fun c => c ≠ '\t' ∧ c ≠ '\r' ∧ c ≠ '\n' := by
  have starts : (url.toList.dropWhile fun c => decide (c.val.toNat ≤ 32)) = url.toList := by
    obtain ⟨first, others, rfl⟩ := List.exists_cons_of_ne_nil nonempty
    have := visible first List.mem_cons_self
    rw [chars]
    exact List.dropWhile_cons_of_neg (by simpa using this)
  unfold cleaned
  rw [starts, chars, List.filter_append, filter_of_visible visible]

/-- Text without control characters and blanks stays as it is. -/
theorem cleaned_of_plain {url : String} (plain : ∀ c ∈ url.toList, 32 < c.val.toNat) :
    cleaned url = url.toList := by
  by_cases nonempty : url.toList = []
  · unfold cleaned
    rw [nonempty]
    rfl
  · rw [cleaned_append (List.append_nil url.toList).symm nonempty plain]
    exact List.append_nil url.toList

/-- The network location and what follows it. -/
def netlocAndRest (cs : List Char) : Except Exc (List Char × List Char) :=
  match cs with
  | '/' :: '/' :: rest =>
      let (netloc, tail) := splitNetloc rest
      if netloc.contains '[' ≠ netloc.contains ']' then
        .error (.valueError "Invalid IPv6 URL")
      else if netloc.contains '[' &&
          !bracketedHostOk (partition ']' (partition '[' netloc).2.2).1 then
        .error (.valueError "bracketed host is not an IPv6 address")
      else .ok (netloc, tail)
  | _ => .ok ([], cs)

/-- `urlsplit(url)`. -/
def urlsplit [Runtime] (url : String) : Except Exc SplitResult := do
  let (scheme, afterScheme) := splitScheme (cleaned url)
  let (netloc, rest) ← netlocAndRest afterScheme
  let (beforeFragment, _, fragment) := partition '#' rest
  let (path, _, query) := partition '?' beforeFragment
  if netlocOk netloc then
    return ⟨String.ofList scheme, String.ofList netloc, String.ofList path, String.ofList query,
      String.ofList fragment⟩
  else
    throw (.valueError "netloc contains invalid characters under NFKC normalization")

/-! ### Schemes and locations -/

/-- A character whose lower case is a small letter is a letter. -/
theorem isAlpha_of_isLower_toLower {c : Char} (lower : c.toLower.isLower = true) :
    c.isAlpha = true := by
  unfold Char.isAlpha
  rw [Bool.or_eq_true]
  by_cases upper : c.isUpper = true
  · exact .inl upper
  · refine .inr ?_
    have same : c.toLower = c := dif_neg fun bounds => upper (by
      unfold Char.isUpper
      simpa using bounds)
    rwa [same] at lower

/-- The text has the scheme `name`, in any case, in front of its first colon. -/
def HasScheme (name cs rest : List Char) : Prop :=
  ∃ head, cs = head ++ ':' :: rest ∧ head.map Char.toLower = name

theorem splitScheme_eq_iff {name cs rest : List Char} (named : name ≠ [])
    (letters : ∀ c ∈ name, c.isLower = true) :
    splitScheme cs = (name, rest) ↔ HasScheme name cs rest := by
  unfold splitScheme
  constructor
  · intro split
    by_cases mem : ':' ∈ cs
    · obtain ⟨head, tail, rfl, absent⟩ := List.eq_append_cons_of_mem mem
      simp only [partition_append absent] at split
      cases head with
      | nil => exact absurd (Prod.mk.inj split).1.symm named
      | cons first others =>
          dsimp only at split
          split at split
          · obtain ⟨isName, rfl⟩ := Prod.mk.inj split
            exact ⟨first :: others, rfl, isName⟩
          · exact absurd (Prod.mk.inj split).1.symm named
    · simp only [partition_of_notMem mem] at split
      cases cs with
      | nil => exact absurd (Prod.mk.inj split).1.symm named
      | cons first others => exact absurd (Prod.mk.inj split).1.symm named
  · rintro ⟨head, rfl, rfl⟩
    have alpha : ∀ c ∈ head, c.isAlpha = true :=
      fun c mem => isAlpha_of_isLower_toLower (letters _ (List.mem_map_of_mem mem))
    have absent : ':' ∉ head := by
      intro mem
      cases alpha ':' mem
    have schemeChars : head.all isSchemeChar = true := by
      refine List.all_eq_true.mpr fun c mem => ?_
      simp [isSchemeChar, Char.isAlphanum, alpha c mem]
    simp only [partition_append absent]
    cases head with
    | nil => exact absurd rfl named
    | cons first others =>
        dsimp only
        rw [schemeChars, alpha first List.mem_cons_self]
        rfl

/-- The location is well formed: its brackets hold an address, and no character
hides a delimiter. -/
def authorityOk [Runtime] (rest : List Char) : Bool :=
  match netlocAndRest rest with
  | .ok (netloc, _) => netlocOk netloc
  | .error _ => false

/-- The path: the text in front of the query and the fragment. -/
def pathOf (rest : List Char) : List Char := (partition '?' (partition '#' rest).1).1

theorem pathOf_eq (rest : List Char) :
    pathOf rest = rest.takeWhile fun c => decide (c ≠ '?' ∧ c ≠ '#') := by
  rw [pathOf, partition_fst, partition_fst, List.takeWhile_takeWhile]
  congr 1
  funext c
  simp

/-- What stands in the parts of a URL that is not refused. -/
theorem urlsplit_ok_iff [Runtime] {url : String} {parsed : SplitResult} :
    urlsplit url = .ok parsed ↔ ∃ netloc rest,
      netlocAndRest (splitScheme (cleaned url)).2 = .ok (netloc, rest) ∧
        netlocOk netloc = true ∧
        parsed = ⟨String.ofList (splitScheme (cleaned url)).1, String.ofList netloc,
          String.ofList (pathOf rest), String.ofList (partition '?' (partition '#' rest).1).2.2,
          String.ofList (partition '#' rest).2.2⟩ := by
  unfold urlsplit
  constructor
  · intro split
    obtain ⟨⟨netloc, rest⟩, located, split⟩ := bind_ok_iff.mp split
    dsimp only at split
    split at split
    · rename_i wellFormed
      cases split
      exact ⟨netloc, rest, located, wellFormed, rfl⟩
    · cases split
  · rintro ⟨netloc, rest, located, wellFormed, rfl⟩
    exact bind_ok_iff.mpr ⟨(netloc, rest), located, if_pos wellFormed⟩

/-- A location without delimiters ends at the first of them. -/
theorem netlocAndRest_eq_iff {cs name rest : List Char} (named : name ≠ [])
    (plain : ∀ c ∈ name, c ∉ ['/', '?', '#', '[', ']']) :
    netlocAndRest cs = .ok (name, rest) ↔
      cs = '/' :: '/' :: (name ++ rest) ∧ ∀ c ∈ rest.head?, c ∈ ['/', '?', '#'] := by
  have ends (c : Char) : decide (c ≠ '/' ∧ c ≠ '?' ∧ c ≠ '#') = false ↔ c ∈ ['/', '?', '#'] := by
    rw [decide_eq_false_iff_not]
    simp only [List.mem_cons, List.not_mem_nil, or_false]
    tauto
  have cut (text : List Char) : splitNetloc text = (name, rest) ↔
      text = name ++ rest ∧ ∀ c ∈ rest.head?, c ∈ ['/', '?', '#'] := by
    rw [splitNetloc, List.span_eq_takeWhile_dropWhile, Prod.mk.injEq,
      takeWhile_eq_and_dropWhile_eq_iff]
    simp only [ends]
    refine and_congr_right fun _ => and_iff_right ?_
    intro c mem
    refine decide_eq_true ⟨?_, ?_, ?_⟩
    all_goals
      rintro rfl
      exact plain _ mem (by decide)
  constructor
  · intro located
    unfold netlocAndRest at located
    split at located
    · rename_i text
      dsimp only at located
      split at located
      · cases located
      · split at located
        · cases located
        · obtain ⟨isText, stop⟩ := (cut text).mp (Except.ok.inj located)
          exact ⟨by rw [isText], stop⟩
    · exact absurd (Prod.mk.inj (Except.ok.inj located)).1.symm named
  · rintro ⟨rfl, stop⟩
    have noOpening : name.contains '[' = false := by
      simpa using fun mem => plain '[' mem (by decide)
    have noClosing : name.contains ']' = false := by
      simpa using fun mem => plain ']' mem (by decide)
    unfold netlocAndRest
    simp only [(cut (name ++ rest)).mpr ⟨rfl, stop⟩, noOpening, noClosing]
    rfl

theorem netlocAndRest_error {cs : List Char} {e : Exc}
    (refused : netlocAndRest cs = .error e) : ∃ text, e = .valueError text := by
  unfold netlocAndRest at refused
  split at refused
  · dsimp only at refused
    split at refused
    · cases refused
      exact ⟨_, rfl⟩
    · split at refused
      · cases refused
        exact ⟨_, rfl⟩
      · cases refused
  · cases refused

/-- Only a `ValueError` refuses a URL. -/
theorem urlsplit_error [Runtime] {url : String} {e : Exc} (refused : urlsplit url = .error e) :
    ∃ text, e = .valueError text := by
  unfold urlsplit at refused
  cases located : netlocAndRest (splitScheme (cleaned url)).2 with
  | error e' =>
      simp only [located, bind, Except.bind] at refused
      cases refused
      exact netlocAndRest_error located
  | ok parts =>
      simp only [located, bind, Except.bind] at refused
      split at refused
      · cases refused
      · cases refused
        exact ⟨_, rfl⟩

/-! ### Host and port -/

/-- `_hostinfo`: the host and port texts of a network location. -/
def hostinfo (netloc : List Char) : List Char × List Char :=
  let host := afterLast '@' netloc
  match partition '[' host with
  | (_, true, bracketed) =>
      let (hostname, _, tail) := partition ']' bracketed
      (hostname, (partition ':' tail).2.2)
  | (_, false, _) =>
      let (hostname, _, port) := partition ':' host
      (hostname, port)

/-- `parsed.hostname`: lower case up to the zone of a scoped address; `None`
when empty. -/
def SplitResult.hostname [Runtime] (u : SplitResult) : Option String :=
  let (host, _) := hostinfo u.netloc.toList
  if host.isEmpty then none
  else
    let (name, zoned, zone) := partition '%' host
    some (Runtime.lower (String.ofList name) ++
      String.ofList (if zoned then '%' :: zone else []))

/-- `parsed.port`: `None` when empty, an error when it is no number up to
65535. -/
def SplitResult.port (u : SplitResult) : Except Exc (Option Nat) :=
  let (_, port) := hostinfo u.netloc.toList
  if port.isEmpty then .ok none
  else if port.all Char.isDigit then
    match parseNat port with
    | some n =>
        if n ≤ 65535 then .ok (some n) else .error (.valueError "Port out of range 0-65535")
    | none => .error (.valueError "Exceeds the limit for integer string conversion")
  else .error (.valueError "Port could not be cast to integer value")

end Python.Url
