import HidroControl.Base.WrapClock
import Mathlib.Data.Rat.Defs

/-!
# `hardware.h` — pins, levels and times

The constants of the AC220 board, under the header's names, and the
millisecond clock. The three translation units that need it each carry their
own `static uint32_t millis32()` with one and the same body; it is one
definition here.
-/

namespace HidroControl

/-! ## Pins and levels -/

abbrev Pin : Type := ℕ

def pinReleFrio : Pin := 16
def pinReleQuente : Pin := 17

def relayOffLevel : ℕ := 0
def relayOnLevel : ℕ := 1

/-- The level written for a commanded relay: `ligar ? ON : OFF`. -/
def relayLevel (ligar : Bool) : ℕ := if ligar then relayOnLevel else relayOffLevel

/-- What every pin was last told by `gpio_set_level`; `none` before the first
call. -/
abbrev Gpio : Type := Pin → Option ℕ

def gpioSetLevel (pin : Pin) (level : ℕ) (g : Gpio) : Gpio :=
  fun p => if p = pin then some level else g p

@[simp] theorem gpioSetLevel_same (pin : Pin) (level : ℕ) (g : Gpio) :
    gpioSetLevel pin level g pin = some level := by simp [gpioSetLevel]

theorem gpioSetLevel_other {pin p : Pin} (h : p ≠ pin) (level : ℕ) (g : Gpio) :
    gpioSetLevel pin level g p = g p := by simp [gpioSetLevel, h]

/-! ## Times -/

def delayOffMs : UInt32 := 5000
def startupInhibitMs : UInt32 := 3000
def modeButtonDebounceMs : UInt32 := 120

/-- `FLOW_K_FACTOR`: F = 6,6 × Q. -/
def flowKFactor : ℚ := 66 / 10

/-- `(uint32_t)(esp_timer_get_time() / 1000ULL)`, from the microseconds the
timer shows. -/
def millis32 (us : ℕ) : UInt32 := WrapClock.reading (us / 1000)

/-- The two hydraulic circuits. Each has a flow sensor and a pump relay. -/
inductive Canal where
  | frio
  | quente
deriving DecidableEq, Repr

end HidroControl
