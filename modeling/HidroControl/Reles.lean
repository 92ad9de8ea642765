import HidroControl.Hardware

/-!
# `reles.cpp` — the relay outputs

Two cached booleans and the pins behind them. The setters write the pin only
when the commanded state differs from the cache, which is harmless as long as
the cache tells the truth about the pin: that is `Reles.Coerente`, established
by `reles_init` and kept by both setters, and under it a setter does to the
state exactly what one that always writes would do (`relesSetFrio_eq_sempre`).
-/

namespace HidroControl

structure Reles where
  sFrio : Bool := false
  sQuente : Bool := false
  gpio : Gpio := fun _ => none

def relesInit (s : Reles) : Reles :=
  let g := gpioSetLevel pinReleFrio relayOffLevel s.gpio
  let g := gpioSetLevel pinReleQuente relayOffLevel g
  -- `gpio_config` in between makes the pins outputs; it writes no level
  let g := gpioSetLevel pinReleFrio relayOffLevel g
  let g := gpioSetLevel pinReleQuente relayOffLevel g
  { sFrio := false, sQuente := false, gpio := g }

def relesSetFrio (ligar : Bool) (s : Reles) : Reles :=
  if ligar = s.sFrio then s
  else
    { s with
      sFrio := ligar
      gpio := gpioSetLevel pinReleFrio (relayLevel ligar) s.gpio }

def relesSetQuente (ligar : Bool) (s : Reles) : Reles :=
  if ligar = s.sQuente then s
  else
    { s with
      sQuente := ligar
      gpio := gpioSetLevel pinReleQuente (relayLevel ligar) s.gpio }

def relesFrioLigado (s : Reles) : Bool := s.sFrio
def relesQuenteLigado (s : Reles) : Bool := s.sQuente

def Reles.ligado (s : Reles) : Canal → Bool
  | .frio => relesFrioLigado s
  | .quente => relesQuenteLigado s

def pinRele : Canal → Pin
  | .frio => pinReleFrio
  | .quente => pinReleQuente

/-! ## The setters command what they are asked -/

@[simp] theorem relesSetFrio_sFrio (b : Bool) (s : Reles) :
    (relesSetFrio b s).sFrio = b := by
  unfold relesSetFrio
  split
  · next h => exact h.symm
  · rfl

@[simp] theorem relesSetFrio_sQuente (b : Bool) (s : Reles) :
    (relesSetFrio b s).sQuente = s.sQuente := by
  unfold relesSetFrio
  split <;> rfl

@[simp] theorem relesSetQuente_sQuente (b : Bool) (s : Reles) :
    (relesSetQuente b s).sQuente = b := by
  unfold relesSetQuente
  split
  · next h => exact h.symm
  · rfl

@[simp] theorem relesSetQuente_sFrio (b : Bool) (s : Reles) :
    (relesSetQuente b s).sFrio = s.sFrio := by
  unfold relesSetQuente
  split <;> rfl

/-! ## The cache and the pins -/

/-- Both relay pins were last told what the cache says. -/
def Reles.Coerente (s : Reles) : Prop :=
  ∀ c, s.gpio (pinRele c) = some (relayLevel (s.ligado c))

theorem relesInit_coerente (s : Reles) : (relesInit s).Coerente := by
  intro c
  cases c
  · simp [relesInit, pinRele, Reles.ligado, relesFrioLigado, gpioSetLevel,
      relayLevel, pinReleFrio, pinReleQuente]
  · simp [relesInit, pinRele, Reles.ligado, relesQuenteLigado, relayLevel]

def relesSetFrioSempre (ligar : Bool) (s : Reles) : Reles :=
  { s with
    sFrio := ligar
    gpio := gpioSetLevel pinReleFrio (relayLevel ligar) s.gpio }

def relesSetQuenteSempre (ligar : Bool) (s : Reles) : Reles :=
  { s with
    sQuente := ligar
    gpio := gpioSetLevel pinReleQuente (relayLevel ligar) s.gpio }

theorem gpioSetLevel_idem {g : Gpio} {pin : Pin} {level : ℕ}
    (h : g pin = some level) : gpioSetLevel pin level g = g := by
  funext p
  by_cases hp : p = pin
  · rw [hp, gpioSetLevel_same, h]
  · exact gpioSetLevel_other hp level g

theorem relesSetFrio_eq_sempre {s : Reles} (h : s.Coerente) (b : Bool) :
    relesSetFrio b s = relesSetFrioSempre b s := by
  unfold relesSetFrio relesSetFrioSempre
  split
  · next hb =>
      have hpin : s.gpio pinReleFrio = some (relayLevel b) := by
        rw [hb]
        exact h .frio
      rw [gpioSetLevel_idem hpin, hb]
  · rfl

theorem relesSetQuente_eq_sempre {s : Reles} (h : s.Coerente) (b : Bool) :
    relesSetQuente b s = relesSetQuenteSempre b s := by
  unfold relesSetQuente relesSetQuenteSempre
  split
  · next hb =>
      have hpin : s.gpio pinReleQuente = some (relayLevel b) := by
        rw [hb]
        exact h .quente
      rw [gpioSetLevel_idem hpin, hb]
  · rfl

theorem pinReleQuente_ne_frio : pinReleQuente ≠ pinReleFrio := by decide

theorem relesSetFrio_coerente {s : Reles} (h : s.Coerente) (b : Bool) :
    (relesSetFrio b s).Coerente := by
  rw [relesSetFrio_eq_sempre h]
  intro c
  cases c
  · show gpioSetLevel pinReleFrio (relayLevel b) s.gpio pinReleFrio = _
    exact gpioSetLevel_same _ _ _
  · show gpioSetLevel pinReleFrio (relayLevel b) s.gpio pinReleQuente = _
    rw [gpioSetLevel_other pinReleQuente_ne_frio]
    exact h .quente

theorem relesSetQuente_coerente {s : Reles} (h : s.Coerente) (b : Bool) :
    (relesSetQuente b s).Coerente := by
  rw [relesSetQuente_eq_sempre h]
  intro c
  cases c
  · show gpioSetLevel pinReleQuente (relayLevel b) s.gpio pinReleFrio = _
    rw [gpioSetLevel_other pinReleQuente_ne_frio.symm]
    exact h .frio
  · show gpioSetLevel pinReleQuente (relayLevel b) s.gpio pinReleQuente = _
    exact gpioSetLevel_same _ _ _

end HidroControl
