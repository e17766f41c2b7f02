/-
Passkey/Keystrokes.lean

Detection of security keys that type a one-time password.

Many security keys also act as a keyboard and emit a long text when touched.
A visitor who touches the key before the platform asks for it types that text
into the page.  The tell is a burst of keystrokes far faster than a hand can
type: ten of them within less than a fifth of a second.  The monitor keeps a
bounded window of times, warns at most once and is switched off for good by
the first ceremony.
-/
namespace Passkey.Keystrokes

/-- The number of times that are kept. -/
def windowCapacity : Nat := 50

/-- The number of keystrokes in a burst. -/
def burstLength : Nat := 10

/-- A burst spans strictly less than this many milliseconds. -/
def burstSpan : Float := 200

/-- The keystrokes seen so far, as far as they can still matter: the times of the latest ones that
count, oldest first, and whether keystrokes are still watched. -/
structure Monitor where
  window : List Float
  active : Bool
deriving Repr

/-- A monitor that has seen nothing. -/
def Monitor.fresh : Monitor := ⟨[], true⟩

/-- Stops the watch for the rest of the page view. -/
def Monitor.disable (_ : Monitor) : Monitor := ⟨[], false⟩

/-- Whether a key counts: a character does, and so does Enter, which ends a
one-time password.  The other named keys do not. -/
def counts (key : String) : Bool :=
  key.toList.length ≤ 1 || key == "Enter"

/-- Puts a time behind the window and drops the oldest one if there are too many. -/
def slide (window : List Float) (now : Float) : List Float :=
  let longer := window ++ [now]
  if longer.length > windowCapacity then longer.drop 1 else longer

/-- Whether the latest keystrokes of the window, up to `now`, are a burst. -/
def isBurst (window : List Float) (now : Float) : Bool :=
  burstLength ≤ window.length &&
    match window[window.length - burstLength]? with
    | some oldest => now - oldest < burstSpan
    | none => false

/-- Records a keystroke; the answer says whether it completes a burst. -/
def Monitor.record (m : Monitor) (key : String) (now : Float) : Bool × Monitor :=
  if m.active && counts key then
    let window := slide m.window now
    if isBurst window now then (true, m.disable) else (false, { m with window })
  else (false, m)

/-- A keystroke warns only while the watch is on, and a warning ends it. -/
theorem Monitor.record_spends (m : Monitor) (key : String) (now : Float) :
    (m.record key now).1.toNat + (m.record key now).2.active.toNat ≤ m.active.toNat := by
  rcases ha : m.active with - | -
  · simp [record, ha]
  · by_cases hc : counts key
    · by_cases hb : isBurst (slide m.window now) now
      · simp [record, ha, hc, hb, disable]
      · simp [record, ha, hc, hb]
    · simp [record, ha, hc]

/-- A keystroke: the key and the time of its keydown in milliseconds. -/
structure Keystroke where
  key : String
  time : Float
deriving Repr

/-- Keystrokes at even distances: the one numbered `i` comes at `start + step * i`. -/
def evenly (keys : List String) (start step : Float) : List Keystroke :=
  keys.zipIdx.map fun (key, i) => ⟨key, start + step * Float.ofNat i⟩

/-- Records keystrokes in turn; the answer lists the indices of those that warned. -/
def Monitor.recordAll (m : Monitor) (strokes : List Keystroke) : List Nat × Monitor :=
  strokes.zipIdx.foldl
    (fun (fired, m) (s, i) =>
      let (warned, m) := m.record s.key s.time
      (if warned then fired ++ [i] else fired, m))
    ([], m)

end Passkey.Keystrokes
