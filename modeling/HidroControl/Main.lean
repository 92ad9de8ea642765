import HidroControl.Fluxo
import HidroControl.Modos
import HidroControl.Reles

/-!
# `main.cpp` — the control decision

One turn of the `while (true)` of `task_hidrocontrol` from the clock read at
the top to the two relay setters. What the turn reads from the rest of the
program is a `Leituras`: the timer at the top, the reads of `fluxo_update`, and
the mode snapshot `modos_get()`. The button, the log and the telemetry of the
same loop are in `Programa`, which runs this decision step by step.

The `switch (modo)` is compared with the table of the operating modes, `alimenta`
(which sensor feeds which relay): a relay is commanded on exactly when the
inhibition is over and some sensor that feeds it demands it.
-/

namespace HidroControl

def holdOffActive (lastStopMs nowMs : UInt32) : Bool :=
  if lastStopMs = 0 then false
  else decide (nowMs - lastStopMs < delayOffMs)

/-- The four local flags of the loop body once the `if`/`switch` is done. -/
structure Decisao where
  demandaFrio : Bool := false
  demandaQuente : Bool := false
  releFrio : Bool := false
  releQuente : Bool := false
deriving DecidableEq

/-- The `switch (modo)`: relay commands from the two demands. -/
def switchModo (modo : ModoOperacao) (demandaFrio demandaQuente : Bool) : Decisao :=
  match modo with
  | .normal =>
      { demandaFrio, demandaQuente
        releFrio := demandaFrio
        releQuente := demandaQuente }
  | .duo =>
      { demandaFrio, demandaQuente
        releFrio := demandaFrio || demandaQuente
        releQuente := demandaFrio || demandaQuente }
  | .mix =>
      { demandaFrio, demandaQuente
        releFrio := demandaFrio || demandaQuente
        releQuente := demandaQuente }

/-- From `demanda_frio = false` to the end of the inhibition `if`. The flow
flags and stop times are read off the statics of `fluxo.cpp`. -/
def decideReles (now : UInt32) (frioAtivo quenteAtivo : Bool) (f : Fluxo)
    (modo : ModoOperacao) : Decisao :=
  if startupInhibitMs < now then
    switchModo modo
      (frioAtivo || holdOffActive (fluxoLastStopFrioMs f) now)
      (quenteAtivo || holdOffActive (fluxoLastStopQuenteMs f) now)
  else {}

/-- What one turn of the loop reads. The timer never runs backwards. -/
structure Leituras where
  topoUs : ℕ
  fluxo : LeituraFluxo
  modo : ModoOperacao
  topo_le : topoUs ≤ fluxo.nowUs
  now_le_ms : fluxo.nowUs ≤ fluxo.msUs

structure Controle where
  fluxo : Fluxo
  reles : Reles

def Leituras.decisao (l : Leituras) (f : Fluxo) : Decisao :=
  decideReles (millis32 l.topoUs) (fluxoFrioAtivo f) (fluxoQuenteAtivo f) f l.modo

/-- One turn of `task_hidrocontrol`. -/
def taskHidrocontrol (A : Rounding) (l : Leituras) (s : Controle) : Controle :=
  let f := fluxoUpdate A l.fluxo s.fluxo
  let d := l.decisao f
  { fluxo := f
    reles := relesSetQuente d.releQuente (relesSetFrio d.releFrio s.reles) }

/-- The statics when the task starts: `reles_init` done, `fluxo_init` done at
`initUs`. -/
def Controle.boot (initUs : ℕ) : Controle :=
  { fluxo := fluxoInit initUs {}
    reles := relesInit {} }

/-! ## The mode table -/

/-- `alimenta m c r`: in mode `m` the sensor of circuit `c` feeds the relay of
circuit `r`. -/
def alimenta : ModoOperacao → Canal → Canal → Bool
  | .normal, c, r => c == r
  | .duo, _, _ => true
  | .mix, _, .frio => true
  | .mix, c, .quente => c == .quente

theorem alimenta_self (m : ModoOperacao) (c : Canal) : alimenta m c c = true := by
  cases m <;> cases c <;> rfl

def Decisao.demanda (d : Decisao) : Canal → Bool
  | .frio => d.demandaFrio
  | .quente => d.demandaQuente

def Decisao.rele (d : Decisao) : Canal → Bool
  | .frio => d.releFrio
  | .quente => d.releQuente

/-- The `switch` is the table: a relay is on when some feeding sensor demands. -/
theorem switchModo_rele_iff {modo : ModoOperacao} {df dq : Bool} {r : Canal} :
    (switchModo modo df dq).rele r = true ↔
      ∃ c, alimenta modo c r = true ∧ (switchModo modo df dq).demanda c = true := by
  constructor
  · intro h
    cases modo <;> cases r <;> cases df <;> cases dq <;>
      first
        | exact absurd h (by decide)
        | exact ⟨.frio, by decide, by decide⟩
        | exact ⟨.quente, by decide, by decide⟩
  · rintro ⟨c, hfeed, hdem⟩
    revert hfeed hdem
    cases modo <;> cases r <;> cases c <;> cases df <;> cases dq <;> decide

/-- The demand of a circuit: flow now, or a stop still in its hold-off. -/
def demandaDe (now : UInt32) (c : CanalFluxo) : Bool :=
  c.ativo || holdOffActive c.lastStopMs now

/-- **The decision, as a table.** A relay is commanded on exactly when the
inhibition is over and a sensor that the mode feeds into it demands it. -/
theorem decisao_rele_iff {l : Leituras} {f : Fluxo} {r : Canal} :
    (l.decisao f).rele r = true ↔
      startupInhibitMs < millis32 l.topoUs ∧
        ∃ c, alimenta l.modo c r = true ∧
          demandaDe (millis32 l.topoUs) (f.canal c) = true := by
  unfold Leituras.decisao decideReles
  by_cases hnow : startupInhibitMs < millis32 l.topoUs
  · rw [if_pos hnow, switchModo_rele_iff]
    simp only [hnow, true_and]
    refine exists_congr fun c => and_congr_right fun _ => ?_
    cases c <;> cases l.modo <;> rfl
  · rw [if_neg hnow]
    cases r <;> simp [Decisao.rele, hnow]

theorem taskHidrocontrol_ligado (A : Rounding) (l : Leituras) (s : Controle)
    (r : Canal) :
    (taskHidrocontrol A l s).reles.ligado r =
      (l.decisao (fluxoUpdate A l.fluxo s.fluxo)).rele r := by
  cases r <;>
    simp [taskHidrocontrol, Reles.ligado, relesFrioLigado, relesQuenteLigado,
      Decisao.rele]

end HidroControl
