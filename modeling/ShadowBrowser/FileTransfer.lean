/-
What the file server and the file getter share: the texts they exchange, the search for a
text in a C string, and their sockets.

A socket has the bytes that have arrived and the bytes it has taken.  How much a call gets
through is an `Answer` of the kernel's: at most a number of bytes, nothing now, or an error.
Texts are looked for with `strcasestr`, which gives the place of the first occurrence.

* `strcasestr_request_end`, `strcasestr_path` — what the server finds in a request;
* `strcasestr_header_status`, `_end`, `_length` — what the getter finds in a reply.
-/
import ShadowBrowser.TextSearch
import ShadowBrowser.TorrentBlocks

namespace ShadowBrowser

open Texts Torrent

namespace FileTransfer

/-! ### Sockets -/

/-- What the kernel answers to a call on a socket: the most bytes it moves, that the call would
block, or that it fails. -/
inductive Answer
  | got (n : ℕ)
  | wouldBlock
  | failed
  deriving DecidableEq, Repr

/-- What a call returns. -/
inductive Returned (α : Type)
  | ok (a : α)
  | wouldBlock
  | failed

/-- A connected socket: the bytes that have arrived and are not yet read, and the bytes that have
been sent. -/
structure Socket where
  inbox : List UInt8 := []
  sent : List UInt8 := []
  deriving DecidableEq, Repr

/-- `recv`, which returns no bytes when the other side has closed, or when no space is offered. -/
def Socket.recv (s : Socket) (space : ℕ) : Answer → Returned (List UInt8) × Socket
  | .got n =>
    if s.inbox = [] ∧ 0 < min n space then (.wouldBlock, s)
    else (.ok (s.inbox.take (min n space)), { s with inbox := s.inbox.drop (min n space) })
  | .wouldBlock => (.wouldBlock, s)
  | .failed => (.failed, s)

/-- `send`, which returns how many bytes were taken: none if none were offered. -/
def Socket.send (s : Socket) (bytes : List UInt8) : Answer → Returned ℕ × Socket
  | .got n => (.ok (min n bytes.length), { s with sent := s.sent ++ bytes.take n })
  | .wouldBlock => (.wouldBlock, s)
  | .failed => (.failed, s)

/-- An answer of a connection that is neither closed nor broken. -/
def Answer.Alive : Answer → Prop
  | .got n => 0 < n
  | .wouldBlock => True
  | .failed => False

instance : (a : Answer) → Decidable a.Alive
  | .got n => inferInstanceAs (Decidable (0 < n))
  | .wouldBlock => inferInstanceAs (Decidable True)
  | .failed => inferInstanceAs (Decidable False)

/-- What a live socket with room for the answer returns. -/
theorem Socket.recv_alive {s : Socket} {space : ℕ} {a : Answer} (ha : a.Alive) (hspace : 0 < space) :
    s.recv space a = (.wouldBlock, s) ∧ (s.inbox = [] ∨ a = .wouldBlock) ∨
      ∃ bs rest, bs ≠ [] ∧ s.inbox = bs ++ rest ∧ s.recv space a = (.ok bs, { s with inbox := rest }) ∧
        ∀ n, a = .got n → s.inbox.length ≤ n → s.inbox.length ≤ space → rest = [] := by
  cases a with
  | got n =>
    have hmin : 0 < min n space := Nat.lt_min.mpr ⟨ha, hspace⟩
    by_cases hnil : s.inbox = []
    · exact .inl ⟨by rw [recv, if_pos ⟨hnil, hmin⟩], .inl hnil⟩
    · refine .inr ⟨s.inbox.take (min n space), s.inbox.drop (min n space), ?_,
        (List.take_append_drop _ _).symm, by rw [recv, if_neg fun h => hnil h.1], ?_⟩
      · intro h
        obtain h | h := List.take_eq_nil_iff.mp h
        · omega
        · exact hnil h
      · rintro _ ⟨⟩ hn hle
        exact List.drop_eq_nil_of_le (Nat.le_min.mpr ⟨hn, hle⟩)
  | wouldBlock => exact .inl ⟨rfl, .inr rfl⟩
  | failed => exact ha.elim

/-! ### Texts -/

/-- `FT_STR_SIZE`. -/
def strSize : ℕ := 256

/-- `FT_BUF_SIZE`. -/
def bufSize : ℕ := 51200

/-- `FT_HTTP_200`. -/
def http200 : List UInt8 := ascii "HTTP/1.1 200 OK" ++ crlf

/-- `FT_HTTP_404`. -/
def http404 : List UInt8 := ascii "HTTP/1.1 404 NOT FOUND" ++ crlf

/-- `FT_2CRLF`. -/
def twoCrlf : List UInt8 := crlf ++ crlf

/-- `FT_CONTENT`. -/
def contentText : List UInt8 := ascii "Content-Length: "

/-- `FT_HTTP_200_FMT`. -/
def header (n : ℕ) : List UInt8 := http200 ++ contentText ++ decimal n ++ twoCrlf

/-- `FT_HTTP_GET_FMT`. -/
def getRequest (path host : List UInt8) : List UInt8 :=
  ascii "GET " ++ path ++ ascii " HTTP/1.1" ++ crlf ++ ascii "Host: " ++ host ++ twoCrlf

/-- A file and what is written in front of it. -/
def reply (content : List UInt8) : List UInt8 := header content.length ++ content

/-- `strcasestr`, in a buffer that holds these bytes and then a NUL. -/
def strcasestr (buf needle : List UInt8) : Option ℕ := find toLower needle (cString buf)

theorem length_header (n : ℕ) : (header n).length = 37 + (decimal n).length := by
  simp only [header, List.length_append]
  rw [show http200.length = 17 from rfl, show contentText.length = 16 from rfl,
    show twoCrlf.length = 4 from rfl]
  omega

theorem length_reply (content : List UInt8) :
    (reply content).length = (header content.length).length + content.length :=
  List.length_append

theorem length_reply_pos (content : List UInt8) : 0 < (reply content).length := by
  rw [length_reply, length_header]
  omega

/-! ### Searching -/

/-- What is checked letter by letter holds of all. -/
theorem forall_mem_of_all {l : List UInt8} {P : UInt8 → Prop} [DecidablePred P]
    (h : (l.all fun b => decide (P b)) = true) : ∀ b ∈ l, P b := by
  intro b hb
  exact of_decide_eq_true (List.all_eq_true.mp h b hb)

/-- The letters below `A` are themselves only. -/
theorem toLower_eq_iff {b c : UInt8} (hc : c < 65) : toLower b = c ↔ b = c := by
  rw [UInt8.lt_iff_toNat_lt] at hc
  have h65 : (65 : UInt8).toNat = 65 := rfl
  rw [toLower]
  split_ifs with h
  · simp only [UInt8.le_iff_toNat_le] at h
    have h90 : (90 : UInt8).toNat = 90 := rfl
    have hb : (b + 32).toNat = b.toNat + 32 := by
      rw [UInt8.toNat_add]
      have h32 : (32 : UInt8).toNat = 32 := rfl
      omega
    rw [← UInt8.toNat_inj, ← UInt8.toNat_inj, hb]
    omega
  · rfl

/-- A part without a letter below `A` has none that is like it. -/
theorem toLower_ne {l : List UInt8} {c : UInt8} (hc : c < 65) (h : c ∉ l) :
    ∀ b ∈ l, toLower b ≠ toLower c := by
  intro b hb heq
  rw [(toLower_eq_iff hc).mpr rfl, toLower_eq_iff hc] at heq
  exact h (heq ▸ hb)

theorem cString_append {bs : List UInt8} (rest : List UInt8) (h : 0 ∉ bs) :
    cString (bs ++ rest) = bs ++ cString rest :=
  List.takeWhile_append_of_pos fun _ hb => decide_eq_true fun h0 => h (h0 ▸ hb)

theorem cString_eq {bs : List UInt8} (h : 0 ∉ bs) : cString bs = bs := by
  have happ := cString_append [] h
  rwa [List.append_nil, show cString [] = [] from rfl, List.append_nil] at happ

/-- The digits of a number have no letter of this kind. -/
theorem notMem_decimal {n : ℕ} {b : UInt8} (hb : ¬ IsDigit b) : b ∉ decimal n := fun h =>
  hb (isDigit_of_mem_decimal h)

/-- What a client asks for. -/
structure Target where
  path : List UInt8
  host : List UInt8
  deriving DecidableEq, Repr

/-- The request for it. -/
def Target.request (t : Target) : List UInt8 := getRequest t.path t.host

/-- A well-formed request that fits into the server's buffer. -/
structure Target.WellFormed (t : Target) : Prop where
  path_ne : t.path ≠ []
  path : ∀ b ∈ t.path, b ≠ 0 ∧ b ≠ 13 ∧ b ≠ 32
  host : ∀ b ∈ t.host, b ≠ 0 ∧ b ≠ 13
  short : t.request.length ≤ 255

variable {t : Target}

/-- A request has no NUL. -/
theorem Target.WellFormed.zero_notMem (ht : t.WellFormed) : 0 ∉ t.request := by
  intro h
  simp only [request, getRequest, List.mem_append] at h
  obtain (((((h | h) | h) | h) | h) | h) | h := h
  · exact absurd h (by decide)
  · exact (ht.path 0 h).1 rfl
  · exact absurd h (by decide)
  · exact absurd h (by decide)
  · exact absurd h (by decide)
  · exact (ht.host 0 h).1 rfl
  · exact absurd h (by decide)

theorem Target.request_ne (t : Target) : t.request ≠ [] := by
  intro h
  cases h

/-- **A request ends where the server finds its end.** -/
theorem strcasestr_request_end (ht : t.WellFormed) :
    strcasestr t.request twoCrlf = some (t.request.length - 4) := by
  have hline : 13 ∉ ascii "GET " ++ t.path ++ ascii " HTTP/1.1" := by
    simp only [List.mem_append, not_or]
    exact ⟨⟨by decide, fun h => (ht.path 13 h).2.1 rfl⟩, by decide⟩
  have hhost : 13 ∉ 10 :: (ascii "Host: " ++ t.host) := by
    simp only [List.mem_cons, List.mem_append, not_or]
    exact ⟨by decide, by decide, fun h => (ht.host 13 h).2 rfl⟩
  have hneg : ¬ twoCrlf.map toLower <+:
      (13 :: (10 :: (ascii "Host: " ++ t.host) ++ twoCrlf)).map toLower := by
    rintro ⟨rest, hrest⟩
    cases hrest
  have hcut : t.request = ascii "GET " ++ t.path ++ ascii " HTTP/1.1" ++
      13 :: (10 :: (ascii "Host: " ++ t.host) ++ twoCrlf) := by
    simp [Target.request, getRequest, crlf]
  have hlen : t.request.length = (ascii "GET " ++ t.path ++ ascii " HTTP/1.1").length +
      (1 + (10 :: (ascii "Host: " ++ t.host)).length) + 4 := by
    rw [hcut]
    simp only [List.length_append, List.length_cons, show twoCrlf.length = 4 from rfl]
    omega
  rw [strcasestr, cString_eq ht.zero_notMem, hlen, hcut, show twoCrlf = 13 :: 10 :: crlf from rfl,
    find_skip _ (toLower_ne (by decide) hline), ← show twoCrlf = 13 :: 10 :: crlf from rfl,
    find_cons_neg hneg, show twoCrlf = 13 :: 10 :: crlf from rfl,
    find_skip _ (toLower_ne (by decide) hhost),
    show find toLower (13 :: 10 :: crlf) (13 :: 10 :: crlf) = some 0 from rfl]
  simp only [Option.map_some, Option.some.injEq]
  omega

/-- Before its last byte has arrived, its end is not found. -/
theorem strcasestr_request_part (ht : t.WellFormed) {got rest : List UInt8}
    (h : got ++ rest = t.request) (hrest : rest ≠ []) : strcasestr got twoCrlf = none := by
  have hend := strcasestr_request_end ht
  have hzero := ht.zero_notMem
  have hpos := List.length_pos_iff.mpr hrest
  rw [← h, List.mem_append, not_or] at hzero
  rw [← h, strcasestr, cString_append _ hzero.1, cString_eq hzero.2] at hend
  rw [strcasestr, cString_eq hzero.1]
  refine find_eq_none_of_short hend ?_
  rw [List.length_append, show twoCrlf.length = 4 from rfl]
  omega

/-- The word in front of the path. -/
theorem strcasestr_get (ht : t.WellFormed) : strcasestr t.request (ascii "GET ") = some 0 := by
  rw [strcasestr, cString_eq ht.zero_notMem]
  simp only [Target.request, getRequest, List.append_assoc]
  exact find_prefix _ _

/-- What is behind that word, and where the path ends in it. -/
theorem strcasestr_path (ht : t.WellFormed) :
    ∃ rest, t.request.drop 4 = t.path ++ rest ∧
      strcasestr (t.request.drop 4) (ascii " ") = some t.path.length := by
  have hpath : 32 ∉ t.path := fun h => (ht.path 32 h).2.2 rfl
  have hdrop : t.request.drop 4 = t.path ++ 32 :: (ascii "HTTP/1.1" ++ crlf ++ ascii "Host: " ++
      t.host ++ twoCrlf) := by
    simp only [Target.request, getRequest, List.append_assoc]
    rfl
  have hzero : 0 ∉ t.request.drop 4 := fun h => ht.zero_notMem (List.mem_of_mem_drop h)
  refine ⟨_, hdrop, ?_⟩
  rw [strcasestr, cString_eq hzero, hdrop, show ascii " " = [32] from rfl,
    find_skip _ (toLower_ne (by decide) hpath)]
  rfl

/-- A header has no NUL. -/
theorem zero_notMem_header (n : ℕ) : 0 ∉ header n := by
  simp only [header, List.mem_append, not_or]
  exact ⟨⟨⟨by decide, by decide⟩, notMem_decimal (by decide)⟩, by decide⟩

/-- The status of a reply is in front. -/
theorem strcasestr_header_status (n : ℕ) (body : List UInt8) :
    strcasestr (header n ++ body) http200 = some 0 := by
  rw [strcasestr, cString_append _ (zero_notMem_header n)]
  simp only [header, List.append_assoc]
  exact find_prefix _ _

/-- **The header of a reply ends where the getter finds its end**, whatever the body is. -/
theorem strcasestr_header_end (n : ℕ) (body : List UInt8) :
    strcasestr (header n ++ body) twoCrlf = some ((header n).length - 4) := by
  have hfields : 13 ∉ 10 :: (contentText ++ decimal n) := by
    simp only [List.mem_cons, List.mem_append, not_or]
    exact ⟨by decide, by decide, notMem_decimal (by decide)⟩
  have hneg : ¬ twoCrlf.map toLower <+:
      (13 :: (10 :: (contentText ++ decimal n) ++ (twoCrlf ++ cString body))).map toLower := by
    rintro ⟨rest, hrest⟩
    cases hrest
  have hcut : header n ++ cString body = ascii "HTTP/1.1 200 OK" ++
      13 :: (10 :: (contentText ++ decimal n) ++ (twoCrlf ++ cString body)) := by
    simp [header, http200, crlf]
  have hlen : (header n).length = 15 + (1 + (10 :: (contentText ++ decimal n)).length) + 4 := by
    rw [length_header, List.length_cons, List.length_append, show contentText.length = 16 from rfl]
    omega
  rw [strcasestr, cString_append _ (zero_notMem_header n), hlen, hcut,
    show twoCrlf = 13 :: 10 :: crlf from rfl, find_skip _ (forall_mem_of_all (by decide)),
    ← show twoCrlf = 13 :: 10 :: crlf from rfl, find_cons_neg hneg,
    show twoCrlf = 13 :: 10 :: crlf from rfl, find_skip _ (toLower_ne (by decide) hfields),
    find_prefix]
  simp only [Option.map_some, Option.some.injEq, show (ascii "HTTP/1.1 200 OK").length = 15 from rfl]
  omega

/-- Where the getter finds the length of the body. -/
theorem strcasestr_header_length (n : ℕ) (body : List UInt8) :
    strcasestr (header n ++ body) contentText = some 17 := by
  have hcut : header n ++ cString body = http200 ++
      (contentText ++ (decimal n ++ twoCrlf ++ cString body)) := by
    simp [header]
  rw [strcasestr, cString_append _ (zero_notMem_header n), hcut,
    show contentText = 67 :: ascii "ontent-Length: " from rfl, find_skip _ (forall_mem_of_all (by decide)),
    find_prefix]
  rfl

/-- A header says nothing of a file that is not there. -/
theorem strcasestr_header_404 (n : ℕ) : strcasestr (header n) http404 = none := by
  have hcut : header n = 72 :: (ascii "TTP/1.1 200 OK" ++ crlf ++ ascii "Content-Lengt" ++
      104 :: (ascii ": " ++ decimal n ++ twoCrlf ++ [])) := by
    simp only [header, List.append_nil, List.append_assoc]
    rfl
  have hneg : ∀ rest, ¬ http404.map toLower <+: (72 :: (ascii "TTP/1.1 200 OK" ++ rest)).map toLower := by
    rintro rest ⟨rest', hrest⟩
    cases hrest
  have hneg' : ∀ rest, ¬ http404.map toLower <+: (104 :: (ascii ": " ++ rest)).map toLower := by
    rintro rest ⟨rest', hrest⟩
    cases hrest
  have htail : ∀ b ∈ ascii ": " ++ decimal n ++ twoCrlf, toLower b ≠ toLower 72 := by
    simp only [List.mem_append]
    rintro b ((hb | hb) | hb)
    · exact forall_mem_of_all (P := fun b => toLower b ≠ toLower 72) (by decide) b hb
    · obtain ⟨hlo, hhi⟩ := isDigit_of_mem_decimal hb
      intro heq
      have hlt : ¬ (65 ≤ b) := by
        rw [UInt8.le_iff_toNat_le, show (65 : UInt8).toNat = 65 from rfl]
        omega
      rw [toLower, if_neg fun h => hlt h.1, show toLower 72 = 104 from rfl] at heq
      rw [heq] at hhi
      exact absurd hhi (by decide)
    · exact forall_mem_of_all (P := fun b => toLower b ≠ toLower 72) (by decide) b hb
  rw [strcasestr, cString_eq (zero_notMem_header n), hcut]
  simp only [List.append_assoc]
  rw [find_cons_neg (hneg _), ← List.append_assoc, ← List.append_assoc,
    show http404 = 72 :: ascii "TTP/1.1 404 NOT FOUND" ++ crlf from rfl, List.cons_append,
    find_skip _ (forall_mem_of_all (by decide)), ← List.cons_append,
    ← show http404 = 72 :: ascii "TTP/1.1 404 NOT FOUND" ++ crlf from rfl, find_cons_neg (hneg' _),
    show http404 = 72 :: ascii "TTP/1.1 404 NOT FOUND" ++ crlf from rfl, List.cons_append,
    ← List.append_assoc, ← List.append_assoc, find_skip _ htail]
  rfl

/-- In a part of a header, nothing that the getter looks for is complete. -/
theorem strcasestr_header_part {n : ℕ} {got rest : List UInt8} (h : got ++ rest = header n)
    (hrest : rest ≠ []) : strcasestr got http404 = none ∧ strcasestr got twoCrlf = none := by
  have hzero := zero_notMem_header n
  have hend := strcasestr_header_end n []
  have h404 := strcasestr_header_404 n
  have hpos := List.length_pos_iff.mpr hrest
  rw [List.append_nil] at hend
  rw [← h, List.mem_append, not_or] at hzero
  rw [← h, strcasestr, cString_append _ hzero.1, cString_eq hzero.2] at hend h404
  rw [strcasestr, strcasestr, cString_eq hzero.1]
  refine ⟨find_eq_none_of_append h404, find_eq_none_of_short hend ?_⟩
  rw [List.length_append, show twoCrlf.length = 4 from rfl]
  omega

end FileTransfer

end ShadowBrowser
