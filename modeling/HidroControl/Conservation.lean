import HidroControl.Fluxo
import HidroControl.Base.Arrivals
import HidroControl.Base.Trajectory
import Mathlib.Algebra.BigOperators.Group.List.Basic

/-!
# No pulse is lost

`fluxo_update` one statement at a time, with interrupts and the passing of time
between any two statements. Beside the machine runs a book that the program does
not have: how many pulses each sensor has sent, how many it had sent when its
counter was loaded, and a line for every window a call completed.

The invariant (`Confere`) says that the statics are always the ones the current
call has got to, starting from those it found (`parcial`), that the counters and
the baselines are the totals of the book modulo `2^32`, and that the lines of the
book follow one another without a gap. The totals of the lines then telescope.
-/

namespace HidroControl

open WrapClock Trajectory

/-! ## The statements of a call -/

/-- The statement the task makes next. `init` is the stamp of `fluxo_init`, `fora`
the first statement of a call. -/
inductive PcUpdate where
  | init
  /-- `now_us = esp_timer_get_time()` and `dt_us`. -/
  | fora
  /-- `if (dt_us < 1000000) return`. -/
  | testa
  /-- `s_last_update_us = now_us`. -/
  | carimba
  /-- `p = s_pulsos.load()`. -/
  | carga (c : Canal)
  /-- `d = p - s_last_pulsos`. -/
  | diferenca (c : Canal)
  /-- `s_last_pulsos = p`. -/
  | base (c : Canal)
  /-- `s_lmin = hz / FLOW_K_FACTOR`, with the two divisions before it. -/
  | taxa (c : Canal)
  /-- `novo_ativo = s_lmin > 0.10f`. -/
  | novo (c : Canal)
  /-- `now_ms = millis32()`. -/
  | relogio
  /-- `if (s_ativo && !novo_ativo) s_last_stop_ms = now_ms`. -/
  | parada (c : Canal)
  /-- `s_ativo = novo_ativo`. -/
  | ativo (c : Canal)
deriving DecidableEq

structure LocaisUpdate where
  nowUs : ℕ := 0
  dtUs : ℤ := 0
  pFrio : UInt32 := 0
  pQuente : UInt32 := 0
  dFrio : UInt32 := 0
  dQuente : UInt32 := 0
  novoFrioAtivo : Bool := false
  novoQuenteAtivo : Bool := false
  nowMs : UInt32 := 0

/-- The timer, the counters, the statics of `fluxo.cpp`, and the task inside
them. -/
structure Atualizacao where
  relogioUs : ℕ := 0
  contadores : Contadores := {}
  fluxo : Fluxo := {}
  pc : PcUpdate := .init
  locais : LocaisUpdate := {}

def Atualizacao.passo (A : Rounding) (m : Atualizacao) : Atualizacao :=
  let l := m.locais
  let f := m.fluxo
  match m.pc with
  | .init => { m with fluxo := fluxoInit m.relogioUs f, pc := .fora }
  | .fora =>
      { m with
        locais := { nowUs := m.relogioUs, dtUs := (m.relogioUs : ℤ) - f.sLastUpdateUs }
        pc := .testa }
  | .testa => { m with pc := if l.dtUs < 1000000 then .fora else .carimba }
  | .carimba => { m with fluxo := { f with sLastUpdateUs := l.nowUs }, pc := .carga .frio }
  | .carga .frio =>
      { m with locais := { l with pFrio := m.contadores.sPulsosFrio }, pc := .carga .quente }
  | .carga .quente =>
      { m with
        locais := { l with pQuente := m.contadores.sPulsosQuente }
        pc := .diferenca .frio }
  | .diferenca .frio =>
      { m with
        locais := { l with dFrio := l.pFrio - f.sLastPulsosFrio }
        pc := .diferenca .quente }
  | .diferenca .quente =>
      { m with
        locais := { l with dQuente := l.pQuente - f.sLastPulsosQuente }
        pc := .base .frio }
  | .base .frio =>
      { m with fluxo := { f with sLastPulsosFrio := l.pFrio }, pc := .base .quente }
  | .base .quente =>
      { m with fluxo := { f with sLastPulsosQuente := l.pQuente }, pc := .taxa .frio }
  | .taxa .frio =>
      { m with fluxo := { f with sFrioLmin := lmin A l.dFrio l.dtUs }, pc := .taxa .quente }
  | .taxa .quente =>
      { m with fluxo := { f with sQuenteLmin := lmin A l.dQuente l.dtUs }, pc := .novo .frio }
  | .novo .frio =>
      { m with
        locais := { l with novoFrioAtivo := lminAtivo A f.sFrioLmin }
        pc := .novo .quente }
  | .novo .quente =>
      { m with
        locais := { l with novoQuenteAtivo := lminAtivo A f.sQuenteLmin }
        pc := .relogio }
  | .relogio =>
      { m with locais := { l with nowMs := millis32 m.relogioUs }, pc := .parada .frio }
  | .parada .frio =>
      { m with
        fluxo :=
          { f with
            sLastStopFrioMs :=
              if f.sFrioAtivo && !l.novoFrioAtivo then l.nowMs else f.sLastStopFrioMs }
        pc := .parada .quente }
  | .parada .quente =>
      { m with
        fluxo :=
          { f with
            sLastStopQuenteMs :=
              if f.sQuenteAtivo && !l.novoQuenteAtivo then l.nowMs
              else f.sLastStopQuenteMs }
        pc := .ativo .frio }
  | .ativo .frio =>
      { m with fluxo := { f with sFrioAtivo := l.novoFrioAtivo }, pc := .ativo .quente }
  | .ativo .quente =>
      { m with fluxo := { f with sQuenteAtivo := l.novoQuenteAtivo }, pc := .fora }

/-- What may happen next: time passes, a sensor interrupts, the task makes a
statement. -/
inductive EventoUpdate where
  | relogio (us : ℕ)
  | isr (c : Canal)
  | passo
deriving DecidableEq

def isrFluxo : Canal → Contadores → Contadores
  | .frio => isrFluxoFrio
  | .quente => isrFluxoQuente

def Atualizacao.evento (A : Rounding) (m : Atualizacao) : EventoUpdate → Atualizacao
  | .relogio us => { m with relogioUs := m.relogioUs + us }
  | .isr c => { m with contadores := isrFluxo c m.contadores }
  | .passo => m.passo A

/-! ## The book -/

/-- A completed window: its length, what it computed for each sensor, and how many
pulses the sensor had sent when its counter was loaded. -/
structure Janela where
  dtUs : ℤ
  d : Canal → UInt32
  lmin : Canal → ℚ
  carga : Canal → ℕ

/-- The pulses each sensor has sent, those at its last load, the timer at the last
`now_ms`, the statics the current call found, and the windows, latest first. -/
structure Livro where
  total : Canal → ℕ := fun _ => 0
  carga : Canal → ℕ := fun _ => 0
  msUs : ℕ := 0
  antes : Fluxo := {}
  janelas : List Janela := []

def LocaisUpdate.p (l : LocaisUpdate) : Canal → UInt32
  | .frio => l.pFrio
  | .quente => l.pQuente

def LocaisUpdate.d (l : LocaisUpdate) : Canal → UInt32
  | .frio => l.dFrio
  | .quente => l.dQuente

def LocaisUpdate.novoAtivo (l : LocaisUpdate) : Canal → Bool
  | .frio => l.novoFrioAtivo
  | .quente => l.novoQuenteAtivo

def Contadores.pulsos (s : Contadores) : Canal → UInt32
  | .frio => s.sPulsosFrio
  | .quente => s.sPulsosQuente

/-- What a statement of the task enters in the book. -/
def Livro.anotaPasso (A : Rounding) (m : Atualizacao) (b : Livro) : Livro :=
  match m.pc with
  | .init => { b with antes := (m.passo A).fluxo }
  | .carga c => { b with carga := Function.update b.carga c (b.total c) }
  | .relogio => { b with msUs := m.relogioUs }
  | .ativo .quente =>
      { b with
        antes := (m.passo A).fluxo
        janelas :=
          { dtUs := m.locais.dtUs
            d := m.locais.d
            lmin := fun c => ((m.passo A).fluxo.canal c).lmin
            carga := b.carga } :: b.janelas }
  | _ => b

def Livro.anota (A : Rounding) (m : Atualizacao) (b : Livro) : EventoUpdate → Livro
  | .relogio _ => b
  | .isr c => { b with total := Function.update b.total c (b.total c + 1) }
  | .passo => b.anotaPasso A m

/-- Machine and book before event `n`. -/
def vigiada (A : Rounding) (evs : ℕ → EventoUpdate) (n : ℕ) : Atualizacao × Livro :=
  state (fun e s => (s.1.evento A e, s.2.anota A s.1 e)) ({}, {}) evs n

/-- How many pulses the last completed window had loaded. -/
def contado (c : Canal) : List Janela → ℕ
  | [] => 0
  | w :: _ => w.carga c

/-! ## The invariant -/

/-- The lines of the book: each window computed from the difference of its own
loads and the loads of the one before. -/
def Escrituradas (A : Rounding) : List Janela → Prop
  | [] => True
  | w :: ws =>
      (∀ c, w.d c = reading (w.carga c) - reading (contado c ws) ∧
        contado c ws ≤ w.carga c ∧ w.lmin c = lmin A (w.d c) w.dtUs) ∧
      1000000 ≤ w.dtUs ∧ Escrituradas A ws

/-- The statics half way through a call that found `antes`. -/
def parcial (A : Rounding) (antes : Fluxo) (l : LocaisUpdate) : PcUpdate → Fluxo
  | .init | .fora | .testa | .carimba => antes
  | .carga _ | .diferenca _ | .base .frio => { antes with sLastUpdateUs := l.nowUs }
  | .base .quente =>
      { antes with sLastUpdateUs := l.nowUs, sLastPulsosFrio := l.pFrio }
  | .taxa .frio =>
      { antes with
        sLastUpdateUs := l.nowUs
        sLastPulsosFrio := l.pFrio
        sLastPulsosQuente := l.pQuente }
  | .taxa .quente =>
      { antes with
        sLastUpdateUs := l.nowUs
        sLastPulsosFrio := l.pFrio
        sLastPulsosQuente := l.pQuente
        sFrioLmin := lmin A l.dFrio l.dtUs }
  | .novo _ | .relogio | .parada .frio =>
      { antes with
        sLastUpdateUs := l.nowUs
        sLastPulsosFrio := l.pFrio
        sLastPulsosQuente := l.pQuente
        sFrioLmin := lmin A l.dFrio l.dtUs
        sQuenteLmin := lmin A l.dQuente l.dtUs }
  | .parada .quente =>
      { antes with
        sLastUpdateUs := l.nowUs
        sLastPulsosFrio := l.pFrio
        sLastPulsosQuente := l.pQuente
        sFrioLmin := lmin A l.dFrio l.dtUs
        sQuenteLmin := lmin A l.dQuente l.dtUs
        sLastStopFrioMs :=
          if antes.sFrioAtivo && !l.novoFrioAtivo then l.nowMs
          else antes.sLastStopFrioMs }
  | .ativo c =>
      { antes with
        sLastUpdateUs := l.nowUs
        sLastPulsosFrio := l.pFrio
        sLastPulsosQuente := l.pQuente
        sFrioLmin := lmin A l.dFrio l.dtUs
        sQuenteLmin := lmin A l.dQuente l.dtUs
        sLastStopFrioMs :=
          if antes.sFrioAtivo && !l.novoFrioAtivo then l.nowMs
          else antes.sLastStopFrioMs
        sLastStopQuenteMs :=
          if antes.sQuenteAtivo && !l.novoQuenteAtivo then l.nowMs
          else antes.sLastStopQuenteMs
        sFrioAtivo := if c = .frio then antes.sFrioAtivo else l.novoFrioAtivo }

/-- The load of sensor `c` in the current call. -/
def Carregou (m : Atualizacao) (b : Livro) (c : Canal) : Prop :=
  m.locais.p c = reading (b.carga c) ∧ contado c b.janelas ≤ b.carga c ∧
    b.carga c ≤ b.total c

def Diferiu (m : Atualizacao) (b : Livro) (c : Canal) : Prop :=
  m.locais.d c = m.locais.p c - (b.antes.canal c).lastPulsos

def Decidiu (A : Rounding) (m : Atualizacao) (c : Canal) : Prop :=
  m.locais.novoAtivo c = lminAtivo A (lmin A (m.locais.d c) m.locais.dtUs)

/-- The length of the window, known to be a second or more. -/
def Mediu (m : Atualizacao) (b : Livro) : Prop :=
  m.locais.dtUs = (m.locais.nowUs : ℤ) - b.antes.sLastUpdateUs ∧
    1000000 ≤ m.locais.dtUs

/-- What the locals hold when the task stands at its statement. -/
def LocaisConferem (A : Rounding) (m : Atualizacao) (b : Livro) : Prop :=
  match m.pc with
  | .init | .fora => True
  | .testa => m.locais.dtUs = (m.locais.nowUs : ℤ) - b.antes.sLastUpdateUs
  | .carimba | .carga .frio => Mediu m b
  | .carga .quente => Mediu m b ∧ Carregou m b .frio
  | .diferenca .frio => Mediu m b ∧ ∀ c, Carregou m b c
  | .diferenca .quente => Mediu m b ∧ (∀ c, Carregou m b c) ∧ Diferiu m b .frio
  | .base _ | .taxa _ | .novo .frio =>
      Mediu m b ∧ (∀ c, Carregou m b c) ∧ ∀ c, Diferiu m b c
  | .novo .quente =>
      Mediu m b ∧ (∀ c, Carregou m b c) ∧ (∀ c, Diferiu m b c) ∧ Decidiu A m .frio
  | .relogio =>
      Mediu m b ∧ (∀ c, Carregou m b c) ∧ (∀ c, Diferiu m b c) ∧ ∀ c, Decidiu A m c
  | .parada _ | .ativo _ =>
      Mediu m b ∧ (∀ c, Carregou m b c) ∧ (∀ c, Diferiu m b c) ∧
        (∀ c, Decidiu A m c) ∧ m.locais.nowMs = millis32 b.msUs

/-- **The book checks.** -/
structure Confere (A : Rounding) (m : Atualizacao) (b : Livro) : Prop where
  fluxo : m.fluxo = parcial A b.antes m.locais m.pc
  contador : ∀ c, m.contadores.pulsos c = reading (b.total c)
  base : ∀ c, (b.antes.canal c).lastPulsos = reading (contado c b.janelas)
  contado_le : ∀ c, contado c b.janelas ≤ b.total c
  linhas : Escrituradas A b.janelas
  locais : LocaisConferem A m b

theorem forall_canal {P : Canal → Prop} (hfrio : P .frio) (hquente : P .quente) :
    ∀ c, P c := by
  intro c
  cases c
  · exact hfrio
  · exact hquente

variable {A : Rounding} {m : Atualizacao} {b : Livro}

/-- **A statement of the task** keeps the book in order. -/
theorem Confere.passo (h : Confere A m b) :
    Confere A (m.passo A) (b.anotaPasso A m) := by
  obtain ⟨us, cont, f, pc, l⟩ := m
  obtain ⟨hf, hcont, hbase, hle, hlinhas, hlocais⟩ := h
  dsimp only at hf hcont
  subst hf
  -- each statement makes true what the next one is said to find
  cases pc with
  | init => exact ⟨rfl, hcont, hbase, hle, hlinhas, trivial⟩
  | fora => exact ⟨rfl, hcont, hbase, hle, hlinhas, rfl⟩
  | testa =>
      by_cases hcedo : l.dtUs < 1000000
      · simp only [Atualizacao.passo, hcedo, if_true]
        exact ⟨rfl, hcont, hbase, hle, hlinhas, trivial⟩
      · simp only [Atualizacao.passo, hcedo, if_false]
        exact ⟨rfl, hcont, hbase, hle, hlinhas, hlocais, not_lt.mp hcedo⟩
  | carimba => exact ⟨rfl, hcont, hbase, hle, hlinhas, hlocais⟩
  | carga c =>
      cases c with
      | frio =>
          exact ⟨rfl, hcont, hbase, hle, hlinhas, hlocais, hcont .frio, hle .frio,
            Nat.le_refl _⟩
      | quente =>
          obtain ⟨hmediu, hfrio⟩ := hlocais
          exact ⟨rfl, hcont, hbase, hle, hlinhas, hmediu,
            forall_canal hfrio ⟨hcont .quente, hle .quente, Nat.le_refl _⟩⟩
  | diferenca c =>
      cases c with
      | frio =>
          obtain ⟨hmediu, hcarga⟩ := hlocais
          exact ⟨rfl, hcont, hbase, hle, hlinhas, hmediu, hcarga, rfl⟩
      | quente =>
          obtain ⟨hmediu, hcarga, hfrio⟩ := hlocais
          exact ⟨rfl, hcont, hbase, hle, hlinhas, hmediu, hcarga,
            forall_canal hfrio rfl⟩
  | base c | taxa c =>
      cases c <;> exact ⟨rfl, hcont, hbase, hle, hlinhas, hlocais⟩
  | novo c =>
      cases c with
      | frio =>
          obtain ⟨hmediu, hcarga, hdif⟩ := hlocais
          exact ⟨rfl, hcont, hbase, hle, hlinhas, hmediu, hcarga, hdif, rfl⟩
      | quente =>
          obtain ⟨hmediu, hcarga, hdif, hfrio⟩ := hlocais
          exact ⟨rfl, hcont, hbase, hle, hlinhas, hmediu, hcarga, hdif,
            forall_canal hfrio rfl⟩
  | relogio =>
      obtain ⟨hmediu, hcarga, hdif, hnovo⟩ := hlocais
      exact ⟨rfl, hcont, hbase, hle, hlinhas, hmediu, hcarga, hdif, hnovo, rfl⟩
  | parada c =>
      cases c <;> exact ⟨rfl, hcont, hbase, hle, hlinhas, hlocais⟩
  | ativo c =>
      cases c with
      | frio => exact ⟨rfl, hcont, hbase, hle, hlinhas, hlocais⟩
      | quente =>
          obtain ⟨hmediu, hcarga, hdif, -, -⟩ := hlocais
          refine ⟨rfl, hcont, ?_, fun c => (hcarga c).2.2, ⟨?_, hmediu.2, hlinhas⟩, trivial⟩
          · -- the baselines are the loads the line records
            exact forall_canal (hcarga .frio).1 (hcarga .quente).1
          · intro c
            refine ⟨?_, (hcarga c).2.1, ?_⟩
            · exact (hdif c).trans (by rw [(hcarga c).1, hbase c])
            · cases c <;> rfl

theorem Confere.relogio (h : Confere A m b) (us : ℕ) :
    Confere A { m with relogioUs := us } b :=
  ⟨h.fluxo, h.contador, h.base, h.contado_le, h.linhas, h.locais⟩

theorem Carregou.isr {c c' : Canal} (h : Carregou m b c) :
    Carregou { m with contadores := isrFluxo c' m.contadores }
      { b with total := Function.update b.total c' (b.total c' + 1) } c := by
  obtain ⟨hp, hle, htotal⟩ := h
  refine ⟨hp, hle, htotal.trans ?_⟩
  by_cases hc : c = c'
  · subst hc
    simp
  · simp [hc]

/-- An interrupt between two statements: the locals stay what they are. -/
theorem LocaisConferem.isr {c : Canal} (h : LocaisConferem A m b) :
    LocaisConferem A { m with contadores := isrFluxo c m.contadores }
      { b with total := Function.update b.total c (b.total c + 1) } := by
  unfold LocaisConferem at *
  dsimp only
  cases hpc : m.pc with
  | carga c' =>
      cases c' with
      | frio =>
          rw [hpc] at h
          exact h
      | quente =>
          -- the hot counter is still to be loaded
          rw [hpc] at h
          exact ⟨h.1, h.2.isr⟩
  | diferenca c' =>
      cases c' with
      | frio =>
          rw [hpc] at h
          exact ⟨h.1, fun c => (h.2 c).isr⟩
      | quente =>
          rw [hpc] at h
          exact ⟨h.1, fun c => (h.2.1 c).isr, h.2.2⟩
  | novo c' =>
      cases c' <;>
      · rw [hpc] at h
        exact ⟨h.1, fun c => (h.2.1 c).isr, h.2.2⟩
  | base c' | taxa c' | relogio | parada c' | ativo c' =>
      rw [hpc] at h
      exact ⟨h.1, fun c => (h.2.1 c).isr, h.2.2⟩
  | _ =>
      rw [hpc] at h
      exact h

/-- **An interrupt** is counted once, for the sensor that sent it. -/
theorem Confere.isr (h : Confere A m b) (c : Canal) :
    Confere A { m with contadores := isrFluxo c m.contadores }
      { b with total := Function.update b.total c (b.total c + 1) } := by
  refine ⟨h.fluxo, ?_, h.base, ?_, h.linhas, h.locais.isr⟩
  · intro c'
    have hcont := h.contador
    dsimp only
    by_cases hc : c' = c
    · subst hc
      rw [Function.update_self, ← reading_succ, ← hcont c']
      cases c' <;> rfl
    · rw [Function.update_of_ne hc, ← hcont c']
      cases c <;> cases c' <;> first | rfl | exact absurd rfl hc
  · intro c'
    have hle := h.contado_le c'
    by_cases hc : c' = c
    · subst hc
      simp only [Function.update_self]
      exact Nat.le_succ_of_le hle
    · simpa [hc] using hle

theorem confere_inicial (A : Rounding) : Confere A {} {} :=
  ⟨rfl, forall_canal rfl rfl, forall_canal rfl rfl, fun _ => Nat.le_refl _, trivial,
    trivial⟩

/-- **Every state of a run checks**, whatever came between the statements. -/
theorem confere_vigiada (A : Rounding) (evs : ℕ → EventoUpdate) (n : ℕ) :
    Confere A (vigiada A evs n).1 (vigiada A evs n).2 := by
  apply invariant (fun _ (s : Atualizacao × Livro) => Confere A s.1 s.2)
  · exact confere_inicial A
  · intro n s hs
    cases evs n with
    | relogio us => exact hs.relogio _
    | isr c => exact hs.isr c
    | passo => exact hs.passo

/-- The total of a sensor is the number of its interrupts. -/
theorem total_vigiada (A : Rounding) (evs : ℕ → EventoUpdate) (c : Canal) (n : ℕ) :
    (vigiada A evs n).2.total c =
      Arrivals.count (fun k => decide (evs k = .isr c)) 0 n := by
  induction n with
  | zero => simp [vigiada, state]
  | succ n ih =>
      rw [Arrivals.count_succ (Nat.zero_le n), ← ih]
      unfold vigiada
      rw [state_succ]
      cases hev : evs n with
      | relogio us => simp [Livro.anota]
      | isr c' =>
          by_cases hc : c = c'
          · subst hc
            simp [Livro.anota]
          · simp [Livro.anota, hc, Ne.symm hc]
      | passo =>
          simp only [Livro.anota, Livro.anotaPasso]
          split <;> simp

/-! ## A call is one `fluxo_update` -/

/-- **The last statement.** A call that closes a window has done to the statics it
found what `fluxoUpdate` does with the values the call read, however the reads were
interrupted. -/
theorem Confere.fim_da_chamada (h : Confere A m b) (hpc : m.pc = .ativo .quente) :
    (m.passo A).fluxo =
      fluxoUpdate A
        { nowUs := m.locais.nowUs
          pFrio := m.locais.pFrio
          pQuente := m.locais.pQuente
          msUs := b.msUs } b.antes := by
  obtain ⟨us, cont, f, pc, l⟩ := m
  obtain ⟨hf, -, -, -, -, hlocais⟩ := h
  dsimp only at hf hpc
  subst hpc
  subst hf
  obtain ⟨⟨hdt, hmin⟩, -, hdif, hnovo, hms⟩ := hlocais
  have hdfrio : l.dFrio = l.pFrio - b.antes.sLastPulsosFrio := hdif .frio
  have hdquente : l.dQuente = l.pQuente - b.antes.sLastPulsosQuente := hdif .quente
  have hnfrio : l.novoFrioAtivo = lminAtivo A (lmin A l.dFrio l.dtUs) := hnovo .frio
  have hnquente : l.novoQuenteAtivo = lminAtivo A (lmin A l.dQuente l.dtUs) :=
    hnovo .quente
  dsimp only at hdt hmin hms
  unfold fluxoUpdate
  dsimp only
  -- the window was a second long, so `fluxoUpdate` goes on as well
  rw [← hdt, if_neg (not_lt.mpr hmin)]
  simp only [Atualizacao.passo, parcial, hdfrio, hdquente, hnfrio, hnquente, hms]
  rfl

/-- The early return, likewise. -/
theorem Confere.retorno_cedo (h : Confere A m b) (hpc : m.pc = .testa)
    (hcedo : m.locais.dtUs < 1000000) :
    (m.passo A).pc = .fora ∧
      (m.passo A).fluxo = fluxoUpdate A { nowUs := m.locais.nowUs } b.antes := by
  have hf := h.fluxo
  have hdt := h.locais
  unfold LocaisConferem at hdt
  rw [hpc] at hf hdt
  have hcomp : ¬ b.antes.completa { nowUs := m.locais.nowUs } := by
    unfold Fluxo.completa
    dsimp only at hdt ⊢
    omega
  rw [fluxoUpdate_of_not_completa hcomp]
  simpa [Atualizacao.passo, hpc, hcedo, parcial] using hf

/-! ## The sums -/

/-- Fewer than `2^32` pulses of sensor `c` from each load to the next. -/
def MenosDeUmaVolta (c : Canal) : List Janela → Prop
  | [] => True
  | w :: ws => w.carga c < contado c ws + 2 ^ 32 ∧ MenosDeUmaVolta c ws

instance decidableMenosDeUmaVolta (c : Canal) :
    (ws : List Janela) → Decidable (MenosDeUmaVolta c ws)
  | [] => isTrue trivial
  | w :: ws =>
      have := decidableMenosDeUmaVolta c ws
      inferInstanceAs (Decidable (w.carga c < contado c ws + 2 ^ 32 ∧ _))

/-- One line: the window counts what was sent since the load before. -/
theorem diferenca_add_contado {w : Janela} {ws : List Janela} {c : Canal}
    (h : Escrituradas A (w :: ws)) (hvolta : MenosDeUmaVolta c (w :: ws)) :
    (w.d c).toNat + contado c ws = contado c (w :: ws) := by
  obtain ⟨hd, hle, -⟩ := h.1 c
  rw [hd, sub_toNat_of_lt hle hvolta.1, Nat.sub_add_cancel hle]
  rfl

/-- **The windows telescope**: every pulse up to the last load is in one of them. -/
theorem soma_diferencas {ws : List Janela} {c : Canal} (h : Escrituradas A ws)
    (hvolta : MenosDeUmaVolta c ws) :
    (ws.map fun w => (w.d c).toNat).sum = contado c ws := by
  induction ws with
  | nil => rfl
  | cons w ws ih =>
      rw [List.map_cons, List.sum_cons, ih h.2.2 hvolta.2]
      exact diferenca_add_contado h hvolta

/-- Exactly read, a rate times the factor times the seconds is the difference. -/
theorem lmin_exact_mul {d : UInt32} {dtUs : ℤ} (hdt : 1000000 ≤ dtUs) :
    lmin .exact d dtUs * flowKFactor * ((dtUs : ℚ) / 1000000) = (d.toNat : ℚ) := by
  have hdt' : (dtUs : ℚ) ≠ 0 := by
    have : dtUs ≠ 0 := by omega
    exact_mod_cast this
  rw [lmin_exact_eq (by omega), flowKFactor]
  field_simp
  ring

theorem soma_litros {ws : List Janela} {c : Canal} (h : Escrituradas .exact ws)
    (hvolta : MenosDeUmaVolta c ws) :
    (ws.map fun w => w.lmin c * flowKFactor * ((w.dtUs : ℚ) / 1000000)).sum =
      (contado c ws : ℚ) := by
  induction ws with
  | nil => simp [contado]
  | cons w ws ih =>
      have hlinha := diferenca_add_contado h hvolta
      obtain ⟨hw, hdt, hws⟩ := h
      rw [List.map_cons, List.sum_cons, ih hws hvolta.2, (hw c).2.2,
        lmin_exact_mul hdt, ← hlinha]
      push_cast
      rfl

/-- **Pulse conservation.** In every state of every interleaving, for each sensor:
the total of the book is the number of its interrupts, the differences of all
completed windows add up to the pulses sent up to the load of the last of them,
and so do the rates, exactly read, times the factor times the seconds. -/
theorem conservacao (evs : ℕ → EventoUpdate) (n : ℕ) (c : Canal) :
    (∀ A : Rounding,
      (vigiada A evs n).2.total c =
        Arrivals.count (fun k => decide (evs k = .isr c)) 0 n ∧
      (MenosDeUmaVolta c (vigiada A evs n).2.janelas →
        ((vigiada A evs n).2.janelas.map fun w => (w.d c).toNat).sum =
          contado c (vigiada A evs n).2.janelas)) ∧
    (MenosDeUmaVolta c (vigiada .exact evs n).2.janelas →
      ((vigiada .exact evs n).2.janelas.map fun w =>
        w.lmin c * flowKFactor * ((w.dtUs : ℚ) / 1000000)).sum =
          (contado c (vigiada .exact evs n).2.janelas : ℚ)) := by
  constructor
  · intro A
    refine ⟨total_vigiada A evs c n, fun hvolta => ?_⟩
    exact soma_diferencas (confere_vigiada A evs n).linhas hvolta
  · intro hvolta
    exact soma_litros (confere_vigiada .exact evs n).linhas hvolta

/-- Two windows. The first cold pulse comes before the load, the second between the
two loads, the third before the baseline is stored. -/
def tresPulsos (n : ℕ) : EventoUpdate :=
  [.passo, .isr .frio, .relogio 1000000, .passo, .passo, .passo, .passo, .isr .frio,
    .passo, .passo, .isr .frio, .isr .quente].getD n
    (if n = 40 then .relogio 1200000 else .passo)

theorem tresPulsos_conservados :
    ((vigiada .exact tresPulsos 59).2.janelas.map fun w => (w.d .frio).toNat).sum = 3 ∧
      (vigiada .exact tresPulsos 59).2.janelas.length = 2 := by
  have hvolta : MenosDeUmaVolta .frio (vigiada .exact tresPulsos 59).2.janelas := by
    decide +kernel
  rw [((conservacao tresPulsos 59 .frio).1 .exact).2 hvolta]
  decide +kernel

end HidroControl
