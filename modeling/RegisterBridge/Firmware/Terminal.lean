import RegisterBridge.Firmware.Basic
import RegisterBridge.Stream.Basic

/-!
# Firmware behind a stream

A firmware is a stream by itself: it takes every write whole, and a read gives
what is waiting, or nothing.  Behind a terminal device a read with nothing
waiting runs into the time limit instead.
-/

namespace RegisterBridge

instance : ByteStream Firmware where
  read firmware want :=
    match firmware.give want with
    | (data, firmware) => (.ok data, firmware)
  write firmware bytes := (.ok bytes.length, firmware.accept bytes)
  interruptionsLeft _ := 0
  length_read := by
    intro firmware want data got
    cases got
    exact firmware.length_give_le want
  count_write := by
    intro firmware bytes count taken
    cases taken
    exact Nat.le_refl _
  interrupted_read := by
    intro firmware want interrupted
    simp [Outcome.isInterrupted] at interrupted
  interrupted_write := by
    intro firmware bytes interrupted
    simp [Outcome.isInterrupted] at interrupted

instance : Release Firmware where
  release firmware := (.ok (), firmware)

/-- A firmware behind a terminal device. -/
structure Terminal where
  firmware : Firmware

/-- Read what is waiting behind a terminal; nothing waiting is a time-out. -/
def Terminal.read (terminal : Terminal) (want : Nat) :
    Outcome StreamError (List UInt8) × Terminal :=
  match terminal with
  | ⟨firmware⟩ =>
    if firmware.pending.bytes = [] then (.error (.ofKind .timedOut), ⟨firmware⟩)
    else
      match firmware.give want with
      | (data, firmware) => (.ok data, ⟨firmware⟩)

instance : ByteStream Terminal where
  read := Terminal.read
  write | ⟨firmware⟩, bytes => (.ok bytes.length, ⟨firmware.accept bytes⟩)
  interruptionsLeft _ := 0
  length_read := by
    rintro ⟨firmware⟩ want data got
    simp only [Terminal.read] at got
    split at got
    · contradiction
    · cases got
      exact firmware.length_give_le want
  count_write := by
    rintro ⟨firmware⟩ bytes count taken
    cases taken
    exact Nat.le_refl _
  interrupted_read := by
    rintro ⟨firmware⟩ want interrupted
    simp only [Terminal.read] at interrupted
    split at interrupted <;>
      simp [Outcome.isInterrupted, StreamError.isInterrupted, StreamError.ofKind] at interrupted
  interrupted_write := by
    intro terminal bytes interrupted
    simp [Outcome.isInterrupted] at interrupted

instance : Release Terminal where
  release terminal := (.ok (), terminal)

end RegisterBridge
