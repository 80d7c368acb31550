import Southbound.Wire.Header

/-!
# Framing

Splits a byte stream into messages by the length in each header. A `FrameReader` keeps the bytes
that have arrived and are not yet part of a frame; `FrameReader.next` takes as many arrivals as the
next frame needs.

`splitAll` is the splitting of a whole stream at once.
-/

namespace Southbound

/-- A header and the body it announces. -/
structure Frame where
  header : Header
  body : Bytes
deriving DecidableEq

inductive FrameError where
  /-- The header announces less than its own length. -/
  | badLength (length : Nat)
  /-- The stream ends inside a message. -/
  | truncated (have_ expected : Nat)
  /-- Reading the stream failed. -/
  | io
deriving DecidableEq

namespace FrameError

/-- The wording, which for a failed read is the business of the stream. -/
def message? : FrameError → Option String
  | badLength length => some s!"Header length {length} is shorter than the header itself"
  | truncated have_ expected => some s!"Stream ended inside a message: {have_} of {expected} bytes"
  | io => none

end FrameError

namespace Frame

def toBytes (f : Frame) : Bytes := f.header.encode ++ f.body

/-- What the bytes at hand amount to. -/
inductive Scan where
  /-- Nothing yet: a message is complete at `expected` bytes. -/
  | partly (expected : Nat)
  | bad (length : Nat)
  | whole (frame : Frame) (rest : Bytes)

/-- Looks for a frame at the front of `bs`. -/
def scan (bs : Bytes) : Scan :=
  match Header.decode bs with
  | .error _ => .partly Header.size
  | .ok h =>
    let length := h.length.toNat
    -- no message is shorter than its header, however much more arrives
    if length < Header.size then .bad length
    else
      let whole := bs.take length
      if whole.length < length then .partly length
      else .whole ⟨h, whole.drop Header.size⟩ (bs.drop length)

/-- A frame takes something away from the bytes it is scanned from. -/
theorem length_scan {bs rest : Bytes} {f : Frame} (h : scan bs = .whole f rest) :
    rest.length < bs.length := by
  unfold scan at h
  split at h
  · simp at h
  · dsimp only at h
    split at h
    · simp at h
    · next h8 =>
      split at h
      · simp at h
      · next hl =>
        -- what is left begins behind the frame, and a frame is at least its header
        simp only [Scan.whole.injEq] at h
        rw [← h.2, List.length_drop]
        have : Header.size = 8 := rfl
        simp only [List.length_take] at hl
        omega

/-- How a stream ends. -/
abbrev End := Option FrameError

/-- The frames of a whole stream, and how it ends: `none` between two frames, or the fault. -/
def splitAll (bs : Bytes) : List Frame × End :=
  match _h : scan bs with
  | .whole f rest =>
    let r := splitAll rest
    (f :: r.1, r.2)
  | .bad length => ([], some (.badLength length))
  | .partly expected =>
    if bs.isEmpty then ([], none) else ([], some (.truncated bs.length expected))
termination_by bs.length
decreasing_by exact length_scan _h

/-- The complete frames at the front of `bs`, the fault that stops them if one does, and the
bytes behind them. -/
def available (bs : Bytes) : List Frame × Option FrameError × Bytes :=
  match _h : scan bs with
  | .whole f rest =>
    let r := available rest
    (f :: r.1, r.2)
  | .bad length => ([], some (.badLength length), bs)
  | .partly _ => ([], none, bs)
termination_by bs.length
decreasing_by exact length_scan _h

end Frame

/-- What one read of a stream brings. After the last arrival the stream has ended. -/
inductive Arrival where
  | data (bytes : Bytes)
  | failure

/-- The bytes that have arrived and belong to no frame yet. -/
structure FrameReader where
  buffer : Bytes := []

namespace FrameReader

/-- The next frame, `none` at the end of the stream, or a fault; with it the reader afterwards and
the arrivals it has not taken. No fault takes a byte from the buffer. -/
def next (r : FrameReader) (arrivals : List Arrival) :
    Except FrameError (Option Frame) × FrameReader × List Arrival :=
  match Frame.scan r.buffer with
  | .whole f rest => (.ok (some f), ⟨rest⟩, arrivals)
  | .bad length => (.error (.badLength length), r, arrivals)
  | .partly expected =>
    match arrivals with
    | .data bytes :: more => next ⟨r.buffer ++ bytes⟩ more
    -- what has arrived stays, and the next call goes on from here
    | .failure :: more => (.error .io, r, more)
    | [] =>
      if r.buffer.isEmpty then (.ok none, r, [])
      else (.error (.truncated r.buffer.length expected), r, [])
termination_by arrivals

/-- How many bytes are still to come. -/
def arriving : List Arrival → Nat
  | [] => 0
  | .data bytes :: more => bytes.length + arriving more
  | .failure :: more => arriving more

/-- How many bytes are there and still to come. -/
def size (r : FrameReader) (arrivals : List Arrival) : Nat := r.buffer.length + arriving arrivals

/-- A frame takes bytes out of the stream. -/
theorem size_next {r r' : FrameReader} {arrivals rest : List Arrival} {f : Frame}
    (h : r.next arrivals = (.ok (some f), r', rest)) : r'.size rest < r.size arrivals := by
  -- a frame takes bytes away; more bytes only move them from the arrivals into the buffer
  fun_induction next r arrivals with
  | case1 r arrivals g tail hs =>
    simp only [Prod.mk.injEq, Except.ok.injEq, Option.some.injEq] at h
    have := Frame.length_scan hs
    simp only [← h.2.1, ← h.2.2, size]
    omega
  | case3 r expected hs bytes more ih =>
    have := ih h
    simp only [size, arriving, List.length_append] at this ⊢
    omega
  | case2 | case4 | case5 | case6 => simp at h

/-- The frames up to the first result that is none, that result, and the reader and the arrivals
afterwards. -/
def readAll (r : FrameReader) (arrivals : List Arrival) :
    List Frame × Except FrameError Unit × FrameReader × List Arrival :=
  match _h : r.next arrivals with
  | (.ok (some f), r', rest) =>
    let (more, last) := readAll r' rest
    (f :: more, last)
  | (.ok none, r', rest) => ([], .ok (), r', rest)
  | (.error e, r', rest) => ([], .error e, r', rest)
termination_by r.size arrivals
decreasing_by exact size_next _h

end FrameReader

end Southbound
