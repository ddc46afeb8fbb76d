import Mathlib.Data.String.Basic
import AdbDaemon.Common.Text

/-!
# Protocol strings

Reference: `src/util.rs`.

A client's request is four hexadecimal digits and as many bytes as they say, so it has at most
`0xffff` of them. A stream is its bytes up to its end; a socket delivers them in chunks.

The digits are written with a minimum width and read by a parser of integers, and neither is exactly
four digits: a longer text is written with more of them (`protocolStrings_roundTrip_iff`), and a plus
sign is read in the place of the first (`readProtocolString_grammar_iff`).
-/

namespace AdbDaemon.SmartSocket

open Common

/-- Why a protocol string could not be read. -/
inductive ReadError where
  | unexpectedEof
  | utf8
  | len (kind : IntErrorKind)
  | service
deriving DecidableEq

/-- `AsyncReadExt::read_exact`: the bytes read and what is left of the stream. -/
def readExact (n : Nat) (stream : List UInt8) : Except ReadError (List UInt8 × List UInt8) :=
  if n ≤ stream.length then .ok (stream.take n, stream.drop n) else .error .unexpectedEof

/-- `from_utf8`, with the error for bytes that are not a text. -/
def fromUtf8 (bytes : List UInt8) (err : ReadError) : Except ReadError String :=
  match String.fromUTF8? ⟨bytes.toArray⟩ with
  | some s => .ok s
  | none => .error err

/-- `read_protocol_string`: four digits, and as many bytes as they say. -/
def readProtocolString (stream : List UInt8) : Except ReadError (String × List UInt8) := do
  let (buf, stream) ← readExact 4 stream
  let len ← (parseHex (2 ^ 64 - 1) (← fromUtf8 buf .utf8)).mapError .len
  let (buf, stream) ← readExact len stream
  return (← fromUtf8 buf .service, stream)

example : readProtocolString "0004host:".toUTF8.data.toList = .ok ("host", [58]) := by decide

/-! ## What is read -/

/-- `read_exact` takes `n` bytes from the front of the stream, if there are as many. -/
theorem readExact_eq_ok_iff {n : Nat} {stream buf rest : List UInt8} :
    readExact n stream = .ok (buf, rest) ↔ buf.length = n ∧ stream = buf ++ rest := by
  rw [readExact]
  constructor
  · intro h
    split at h
    · cases h
      simpa using ‹n ≤ stream.length›
    · cases h
  · rintro ⟨rfl, rfl⟩
    simp

/-- A text is read from its own bytes. -/
theorem fromUtf8_eq_ok_iff {bytes : List UInt8} {err : ReadError} {s : String} :
    fromUtf8 bytes err = .ok s ↔ bytes = toBytes s := by
  rw [fromUtf8, ← fromUTF8_eq_some_iff]
  cases String.fromUTF8? ⟨bytes.toArray⟩ <;> simp

/-- A mapped error leaves the values as they are. -/
theorem ok_of_mapError {ε ε' α : Type} {x : Except ε α} {f : ε → ε'} {a : α}
    (h : x.mapError f = .ok a) : x = .ok a := by
  cases x with
  | error e => cases h
  | ok b => cases h; rfl

/-- What is read: a head of four bytes that parses as the length of the text after it. -/
theorem readProtocolString_eq_ok_iff {stream rest : List UInt8} {s : String} :
    readProtocolString stream = .ok (s, rest) ↔
      ∃ head : String, head.utf8ByteSize = 4 ∧ parseHex (2 ^ 64 - 1) head = .ok s.utf8ByteSize ∧
        stream = toBytes head ++ (toBytes s ++ rest) := by
  constructor
  · intro h
    simp only [readProtocolString, bind, Except.bind] at h
    -- read four bytes, parse them, read as many bytes as they say
    split at h
    · cases h
    rename_i first hfirst
    split at h
    · cases h
    rename_i digits hdigits
    split at h
    · cases h
    rename_i len hlen
    split at h
    · cases h
    rename_i second hsecond
    split at h
    · cases h
    rename_i service hservice
    cases h
    obtain ⟨hfour, rfl⟩ := readExact_eq_ok_iff.mp hfirst
    obtain ⟨hsize, hrest⟩ := readExact_eq_ok_iff.mp hsecond
    rw [fromUtf8_eq_ok_iff.mp hdigits] at hfour ⊢
    rw [fromUtf8_eq_ok_iff.mp hservice] at hsize hrest
    refine ⟨digits, hfour, ?_, by rw [hrest]⟩
    rw [ok_of_mapError hlen, ← hsize]
    rfl
  · rintro ⟨head, hfour, hlen, rfl⟩
    have hfirst : readExact 4 (toBytes head ++ (toBytes s ++ rest)) =
        .ok (toBytes head, toBytes s ++ rest) := readExact_eq_ok_iff.mpr ⟨hfour, rfl⟩
    have hsecond : readExact s.utf8ByteSize (toBytes s ++ rest) = .ok (toBytes s, rest) :=
      readExact_eq_ok_iff.mpr ⟨rfl, rfl⟩
    have hutf8 : ∀ (t : String) (err : ReadError), fromUtf8 (toBytes t) err = .ok t :=
      fun t err => fromUtf8_eq_ok_iff.mpr rfl
    simp only [readProtocolString, bind, Except.bind, hfirst, hutf8, hlen, Except.mapError, hsecond]
    rfl

/-- A character takes at least one byte. -/
theorem length_toList_le (s : String) : s.toList.length ≤ s.utf8ByteSize := by
  rw [← String.utf8Len_toList]
  induction s.toList with
  | nil => exact Nat.le_refl 0
  | cons c cs ih =>
    have hpos := c.utf8Size_pos
    rw [List.length_cons, String.utf8Len_cons]
    omega

/-- A string that is read is no longer than four digits can say. -/
theorem readProtocolString_size {stream rest : List UInt8} {s : String}
    (h : readProtocolString stream = .ok (s, rest)) : s.utf8ByteSize ≤ 0xffff := by
  obtain ⟨head, hfour, hlen, -⟩ := readProtocolString_eq_ok_iff.mp h
  have hlt : s.utf8ByteSize < 16 ^ 4 := by
    refine Nat.lt_of_lt_of_le (parseHex_lt hlen) ?_
    refine Nat.pow_le_pow_right (by decide) ?_
    rw [← hfour]
    exact length_toList_le head
  omega

/-- A head of four characters below 128 that parses as the length of the text after it. -/
theorem readProtocolString_ascii {head : List Char} {s : String}
    (hascii : ∀ c ∈ head, c.toNat < 128) (hlen : head.length = 4)
    (hparse : parseHex (2 ^ 64 - 1) (String.ofList head) = .ok s.utf8ByteSize)
    (rest : List UInt8) :
    readProtocolString (asciiBytes head ++ (toBytes s ++ rest)) = .ok (s, rest) := by
  have hbytes := toBytes_ascii hascii
  refine readProtocolString_eq_ok_iff.mpr ⟨String.ofList head, ?_, hparse, by rw [hbytes]⟩
  rw [← length_toBytes, hbytes, asciiBytes, List.length_map, hlen]

/-- `stream` starts with the four digits `digits`, which denote the length of the text `s`, and with
the bytes of `s`; `rest` comes after them. -/
structure Framed (stream : List UInt8) (digits : List Char) (s : String) (rest : List UInt8) :
    Prop where
  length_digits : digits.length = 4
  number : hexNumber 0 digits = some s.utf8ByteSize
  stream_eq : stream = asciiBytes digits ++ (toBytes s ++ rest)

theorem Framed.read {stream rest : List UInt8} {digits : List Char} {s : String}
    (h : Framed stream digits s rest) : readProtocolString stream = .ok (s, rest) := by
  have hlt : s.utf8ByteSize < 16 ^ digits.length := by simpa using hexNumber_lt h.number
  have hne : digits ≠ [] := List.ne_nil_of_length_pos (by rw [h.length_digits]; decide)
  rw [h.length_digits] at hlt
  rw [h.stream_eq]
  refine readProtocolString_ascii (hexNumber_ascii h.number) h.length_digits ?_ rest
  exact parseHex_eq_ok_iff.mpr ⟨digits, hne, .inl (by simp), h.number, by omega⟩

/-! ## What is written -/

/-- What `write_protocol_string` puts into a writer.  Its two `?` pass on the errors of the writer;
it has none of its own, whatever the length. -/
def writeProtocolString (data : List UInt8) : List UInt8 :=
  -- at least four digits, and more for a length of more
  asciiBytes (formatHex4 data.length) ++ data

example : writeProtocolString (toBytes "host:") = toBytes "0005host:" := by decide

/-- A text below the bound is read back from what was written for it, and no byte after it. -/
theorem readProtocolString_write {s : String} (hs : s.utf8ByteSize < 16 ^ 4) (rest : List UInt8) :
    readProtocolString (writeProtocolString (toBytes s) ++ rest) = .ok (s, rest) := by
  have hframed : Framed (writeProtocolString (toBytes s) ++ rest) (formatHex4 s.utf8ByteSize) s rest := {
    length_digits := by rw [formatHex4_eq hs]; rfl
    number := hexNumber_formatHex4 hs
    stream_eq := by rw [writeProtocolString, length_toBytes, List.append_assoc]
  }
  exact hframed.read

/-! ## Chunks -/

/-- `read_exact` from a stream that arrives in chunks.  Each `poll_read` takes from one of them, and
the bytes of the last that do not fit stay; a chunk without bytes is a poll that was pending, and
the stream ends after the last. -/
def readExactChunks : Nat → List (List UInt8) → Except ReadError (List UInt8 × List (List UInt8))
  | n, [] => if n = 0 then .ok ([], []) else .error .unexpectedEof
  | n, chunk :: chunks =>
    if n ≤ chunk.length then .ok (chunk.take n, chunk.drop n :: chunks)
    else
      match readExactChunks (n - chunk.length) chunks with
      | .ok (buf, chunks) => .ok (chunk ++ buf, chunks)
      | .error err => .error err

/-- `read_protocol_string` from a stream that arrives in chunks. -/
def readProtocolStringChunks (chunks : List (List UInt8)) :
    Except ReadError (String × List (List UInt8)) := do
  let (buf, chunks) ← readExactChunks 4 chunks
  let len ← (parseHex (2 ^ 64 - 1) (← fromUtf8 buf .utf8)).mapError .len
  let (buf, chunks) ← readExactChunks len chunks
  return (← fromUtf8 buf .service, chunks)

/-- Forget where the chunks of what is left end. -/
def flattenRest {α : Type} : Except ReadError (α × List (List UInt8)) →
    Except ReadError (α × List UInt8)
  | .ok (a, chunks) => .ok (a, chunks.flatten)
  | .error err => .error err

/-- Reading does not see how the stream was cut into chunks: what is missing in one is taken from
those after it. -/
theorem readExactChunks_flatten (n : Nat) (chunks : List (List UInt8)) :
    flattenRest (readExactChunks n chunks) = readExact n chunks.flatten := by
  induction chunks generalizing n with
  | nil =>
    rw [readExactChunks, readExact]
    by_cases hn : n = 0 <;> simp [hn, flattenRest]
  | cons chunk chunks ih =>
    rw [readExactChunks, List.flatten_cons]
    by_cases hn : n ≤ chunk.length
    · have hle : n ≤ (chunk ++ chunks.flatten).length := by simp; omega
      rw [if_pos hn, readExact, if_pos hle, List.take_append_of_le_length hn,
        List.drop_append_of_le_length hn]
      rfl
    · -- the whole chunk and the missing bytes from the chunks after it
      rw [if_neg hn]
      have hrec := ih (n - chunk.length)
      rw [readExact] at hrec ⊢
      rw [List.take_append, List.drop_append, List.take_of_length_le (by omega),
        List.drop_of_length_le (by omega), List.nil_append]
      cases hc : readExactChunks (n - chunk.length) chunks with
      | error err =>
        rw [hc, flattenRest] at hrec
        split at hrec
        · cases hrec
        · rw [if_neg (by rw [List.length_append]; omega)]
          exact hrec
      | ok r =>
        obtain ⟨buf, rest⟩ := r
        rw [hc, flattenRest] at hrec
        split at hrec
        · rw [Except.ok.injEq, Prod.mk.injEq] at hrec
          rw [if_pos (by rw [List.length_append]; omega), ← hrec.1, ← hrec.2]
          rfl
        · cases hrec

/-- How a stream is cut into chunks has no influence on what is read from it. -/
theorem readProtocolStringChunks_flatten (chunks : List (List UInt8)) :
    flattenRest (readProtocolStringChunks chunks) = readProtocolString chunks.flatten := by
  rw [readProtocolString, ← readExactChunks_flatten]
  simp only [readProtocolStringChunks, bind, Except.bind]
  cases readExactChunks 4 chunks with
  | error err => rfl
  | ok first =>
    simp only [flattenRest]
    cases fromUtf8 first.1 .utf8 with
    | error err => rfl
    | ok digits =>
      simp only
      cases (parseHex (2 ^ 64 - 1) digits).mapError ReadError.len with
      | error err => rfl
      | ok len =>
        simp only
        rw [← readExactChunks_flatten]
        cases readExactChunks len first.2 with
        | error err => rfl
        | ok second =>
          simp only [flattenRest]
          cases fromUtf8 second.1 .service <;> rfl

/-- As many reads as asked for, each with the number of bytes it took from the stream. -/
def readProtocolStrings : Nat → List (List UInt8) →
    Except ReadError (List (String × Nat) × List (List UInt8))
  | 0, chunks => .ok ([], chunks)
  | n + 1, chunks => do
    let (s, rest) ← readProtocolStringChunks chunks
    let (read, last) ← readProtocolStrings n rest
    return ((s, chunks.flatten.length - rest.flatten.length) :: read, last)

/-! ## The round trip of a sequence -/

/-- However the bytes written for `strings` are cut into chunks, the reads return the strings, each
from exactly the bytes of its write, and leave nothing. -/
def RoundTrip (strings : List String) : Prop :=
  ∀ chunks : List (List UInt8),
    chunks.flatten = strings.flatMap (fun s => writeProtocolString (toBytes s)) →
    ∃ rest, rest.flatten = [] ∧
      readProtocolStrings strings.length chunks =
        .ok (strings.map fun s => (s, (writeProtocolString (toBytes s)).length), rest)

/-- One read in front of the others, when the first string is short enough for its four digits. -/
theorem readProtocolStrings_write {s : String} (hs : s.utf8ByteSize < 16 ^ 4)
    {chunks : List (List UInt8)} {rest : List UInt8}
    (h : chunks.flatten = writeProtocolString (toBytes s) ++ rest) (n : Nat) :
    ∃ chunks', chunks'.flatten = rest ∧
      readProtocolStrings (n + 1) chunks =
        match readProtocolStrings n chunks' with
        | .ok (read, last) => .ok ((s, (writeProtocolString (toBytes s)).length) :: read, last)
        | .error err => .error err := by
  -- the chunks do not matter, and the bytes in front are those of one write
  have hread := readProtocolStringChunks_flatten chunks
  rw [h, readProtocolString_write hs] at hread
  cases hc : readProtocolStringChunks chunks with
  | error err =>
    rw [hc] at hread
    cases hread
  | ok r =>
    obtain ⟨t, chunks'⟩ := r
    rw [hc, flattenRest, Except.ok.injEq, Prod.mk.injEq] at hread
    obtain ⟨rfl, hrest⟩ := hread
    refine ⟨chunks', hrest, ?_⟩
    have hused : chunks.flatten.length - chunks'.flatten.length =
        (writeProtocolString (toBytes t)).length := by
      rw [h, hrest, List.length_append]
      omega
    simp only [readProtocolStrings, hc, bind, Except.bind, hused]
    cases readProtocolStrings n chunks' <;> rfl

/-- Texts whose lengths fit in four digits are read back. -/
theorem roundTrip_of_lt {strings : List String} (h : ∀ s ∈ strings, s.utf8ByteSize < 16 ^ 4) :
    RoundTrip strings := by
  induction strings with
  | nil =>
    intro chunks hchunks
    exact ⟨chunks, hchunks, rfl⟩
  | cons s strings ih =>
    intro chunks hchunks
    rw [List.flatMap_cons] at hchunks
    obtain ⟨chunks', hrest, hread⟩ :=
      readProtocolStrings_write (h s (by simp)) hchunks strings.length
    obtain ⟨rest, hnil, hmore⟩ := ih (fun t ht => h t (by simp [ht])) chunks' hrest
    refine ⟨rest, hnil, ?_⟩
    rw [List.length_cons, hread, hmore]
    rfl

/-- Every string that a sequence of reads returns was within the bound. -/
theorem lt_of_readProtocolStrings {n : Nat} {chunks rest : List (List UInt8)}
    {read : List (String × Nat)} (h : readProtocolStrings n chunks = .ok (read, rest)) :
    ∀ r ∈ read, r.1.utf8ByteSize < 16 ^ 4 := by
  induction n generalizing chunks read with
  | zero =>
    cases h
    simp
  | succ n ih =>
    simp only [readProtocolStrings, bind, Except.bind] at h
    split at h
    · cases h
    rename_i first hfirst
    split at h
    · cases h
    rename_i more hmore
    cases h
    intro r hr
    obtain rfl | hr := List.mem_cons.mp hr
    · have hread := readProtocolStringChunks_flatten chunks
      rw [hfirst] at hread
      have hsize := readProtocolString_size hread.symm
      show first.1.utf8ByteSize < 16 ^ 4
      omega
    · exact ih hmore r hr

/-- The cut into one chunk already shows a string that is too long. -/
theorem lt_of_roundTrip {strings : List String} (h : RoundTrip strings) :
    ∀ s ∈ strings, s.utf8ByteSize < 16 ^ 4 := by
  obtain ⟨rest, -, hread⟩ := h [strings.flatMap fun s => writeProtocolString (toBytes s)] (by simp)
  intro s hs
  exact lt_of_readProtocolStrings hread _ (List.mem_map.mpr ⟨s, hs, rfl⟩)

/-- A sequence of strings is read back, whatever the chunks, exactly when each is shorter than
`0x10000` bytes. -/
theorem protocolStrings_roundTrip_iff (strings : List String) :
    RoundTrip strings ↔ ∀ s ∈ strings, s.utf8ByteSize < 16 ^ 4 :=
  ⟨lt_of_roundTrip, roundTrip_of_lt⟩

/-- A text of `0x10000` bytes is written with five digits, and none of its writes fails. -/
theorem protocolStrings_too_long : ¬ ∀ strings : List String, RoundTrip strings := by
  intro h
  have hlong := lt_of_roundTrip (h [String.ofList (List.replicate 65536 'a')]) _
    (List.mem_singleton.mpr rfl)
  have hbytes : toBytes (String.ofList (List.replicate 65536 'a')) =
      asciiBytes (List.replicate 65536 'a') := by
    apply toBytes_ascii
    intro c hc
    rw [List.eq_of_mem_replicate hc]
    decide
  rw [← length_toBytes, hbytes, asciiBytes, List.length_map, List.length_replicate] at hlong
  exact absurd hlong (by decide)

/-! ## The grammar -/

/-- `stream` starts with a plus sign in the place of the first digit. -/
def PlusFramed (stream : List UInt8) : Prop :=
  ∃ (digits : List Char) (s : String) (rest : List UInt8), digits.length = 3 ∧
    hexNumber 0 digits = some s.utf8ByteSize ∧
    stream = asciiBytes ('+' :: digits) ++ (toBytes s ++ rest)

/-- `read_protocol_string` accepts `stream` exactly when it starts with four digits and a text of the
length that they denote; it returns that text, leaves what follows, and writing the text again gives
the bytes it took up to the case of the digits. -/
def FollowsGrammar (stream : List UInt8) : Prop :=
  ((∃ s rest, readProtocolString stream = .ok (s, rest)) ↔
    ∃ digits s rest, Framed stream digits s rest) ∧
  ∀ s rest, readProtocolString stream = .ok (s, rest) →
    ∃ digits, Framed stream digits s rest ∧
      stream.length = 4 + s.utf8ByteSize + rest.length ∧
      writeProtocolString (toBytes s) = asciiBytes (digits.map Char.toLower) ++ toBytes s

/-- What is accepted has four digits, or a plus sign and three. -/
theorem framed_or_plus {stream rest : List UInt8} {s : String}
    (h : readProtocolString stream = .ok (s, rest)) :
    (∃ digits, Framed stream digits s rest) ∨ PlusFramed stream := by
  obtain ⟨head, hfour, hparse, hstream⟩ := readProtocolString_eq_ok_iff.mp h
  obtain ⟨cs, -, hcs, hnum, -⟩ := parseHex_eq_ok_iff.mp hparse
  have hascii : ∀ ds : List Char, head.toList = ds → (∀ c ∈ ds, c.toNat < 128) →
      toBytes head = asciiBytes ds ∧ ds.length = 4 := by
    intro ds hds hlt
    have hbytes : toBytes head = asciiBytes ds := by
      rw [← toBytes_ascii hlt, ← hds, String.ofList_toList]
    refine ⟨hbytes, ?_⟩
    rw [← hfour, ← length_toBytes, hbytes, asciiBytes, List.length_map]
  obtain hcs | hcs := hcs
  · obtain ⟨hbytes, hlen⟩ := hascii cs hcs (hexNumber_ascii hnum)
    exact .inl ⟨cs, hlen, hnum, by rw [hstream, hbytes]⟩
  · obtain ⟨hbytes, hlen⟩ := hascii _ hcs fun c hc => by
      obtain rfl | hc := List.mem_cons.mp hc
      · decide
      · exact hexNumber_ascii hnum c hc
    exact .inr ⟨cs, s, rest, by simpa using hlen, hnum, by rw [hstream, hbytes]⟩

/-- A stream with a plus sign is accepted and has no first digit. -/
theorem not_followsGrammar_of_plus {stream : List UInt8} (h : PlusFramed stream) :
    ¬ FollowsGrammar stream := by
  obtain ⟨digits, s, rest, hlen, hnum, hstream⟩ := h
  have hascii : ∀ c ∈ '+' :: digits, c.toNat < 128 := by
    intro c hc
    obtain rfl | hc := List.mem_cons.mp hc
    · decide
    · exact hexNumber_ascii hnum c hc
  have hlt : s.utf8ByteSize < 16 ^ digits.length := by simpa using hexNumber_lt hnum
  have hne : digits ≠ [] := List.ne_nil_of_length_pos (by omega)
  rw [hlen] at hlt
  have hparse : parseHex (2 ^ 64 - 1) (String.ofList ('+' :: digits)) = .ok s.utf8ByteSize :=
    parseHex_eq_ok_iff.mpr ⟨digits, hne, .inr (by simp), hnum, by omega⟩
  have hread := readProtocolString_ascii hascii (by rw [List.length_cons, hlen]) hparse rest
  rw [← hstream] at hread
  rintro ⟨haccepts, -⟩
  obtain ⟨digits', s', rest', hframed⟩ := haccepts.mp ⟨s, rest, hread⟩
  match digits', hframed.length_digits, hframed.number, hframed.stream_eq with
  | c :: cs, _, hnumber, hstream' =>
    obtain ⟨d, hd, -⟩ := hexNumber_cons hnumber
    rw [hstream'] at hstream
    -- the first byte is a digit and the plus sign
    have hbyte : UInt8.ofNat c.toNat = 43 := (List.cons.inj hstream).1
    have hnat : c.toNat % 2 ^ 8 = 43 := by
      rw [← UInt8.toNat_ofNat', hbyte]
      rfl
    have hlow := hexValue_ascii hd
    have hplus : c = '+' := Char.toNat_inj.mp (show c.toNat = 43 by omega)
    rw [hplus] at hd
    cases hd

/-- A stream is read by the grammar exactly when it does not start with a plus sign, three digits
and a text of the length that they denote. -/
theorem readProtocolString_grammar_iff (stream : List UInt8) :
    FollowsGrammar stream ↔ ¬ PlusFramed stream := by
  refine ⟨fun h hplus => not_followsGrammar_of_plus hplus h, fun hplus => ⟨⟨?_, ?_⟩, ?_⟩⟩
  · rintro ⟨s, rest, h⟩
    obtain ⟨digits, hframed⟩ := (framed_or_plus h).resolve_right hplus
    exact ⟨digits, s, rest, hframed⟩
  · rintro ⟨digits, s, rest, hframed⟩
    exact ⟨s, rest, hframed.read⟩
  · intro s rest h
    obtain ⟨digits, hframed⟩ := (framed_or_plus h).resolve_right hplus
    refine ⟨digits, hframed, ?_, ?_⟩
    · have hlen := congrArg List.length hframed.stream_eq
      simp only [asciiBytes, List.length_append, List.length_map, length_toBytes,
        hframed.length_digits] at hlen
      omega
    · rw [writeProtocolString, length_toBytes,
        formatHex4_of_hexNumber hframed.length_digits hframed.number]

/-- A request whose length starts with a plus sign is served. -/
theorem readProtocolString_accepts_plus : ¬ ∀ stream : List UInt8, FollowsGrammar stream := by
  intro h
  have hplus : PlusFramed (toBytes "+004host") := ⟨['0', '0', '4'], "host", [], by decide⟩
  exact not_followsGrammar_of_plus hplus (h _)

end AdbDaemon.SmartSocket
