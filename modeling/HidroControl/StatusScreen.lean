import HidroControl.Base.Raster
import HidroControl.Lines
import HidroControl.Modos

/-!
# The status screen loses nothing

`oled_show_status` as a page of seven figures: the two icons, their captions, and
three lines with room for 21 characters. The rooms are fixed, inside the screen and
apart, whatever is written in them (`Status.pagina_apart`), and the framebuffer lights
what the page does (`desenhaStatus_pagina`). The flags can then be read off one pixel
each and the lines off their cells (`tela_sem_perda`).
-/

namespace HidroControl

open CText Raster

/-! ## The font -/

def fonte : Font Char where
  w := 5
  h := 7
  pitch := 6
  w_le := Nat.le_succ 5
  glyph := glifo

/-- The characters with a `case` of their own. -/
def alfabeto : List Char := tabela5x7.map Prod.fst

theorem fonte_legible : fonte.Legible ' ' alfabeto where
  blank_mem := by decide
  blank_glyph := by decide
  distinct := by
    have hall : (alfabeto.all fun a => alfabeto.all fun b =>
        decide (fonte.SameGlyph a b → a = b)) = true := by
      decide +kernel
    intro a ha b hb
    exact of_decide_eq_true (List.all_eq_true.mp (List.all_eq_true.mp hall a ha) b hb)

def escreve (l : Label Char) (s : SBuffer) : SBuffer := oledText l.x l.y l.text s

/-- A text that `oled_text` writes is a figure of the page. -/
theorem aceso_escreve (l : Label Char) (s : SBuffer) (x y : ℕ) :
    aceso (escreve l s) x y = true ↔
      aceso s x y = true ∨ (¬ foraDaTela x y ∧ (l.figure fonte).Lit x y) := by
  unfold escreve
  rw [aceso_oledText]
  refine or_congr_right (and_congr_right fun _ => ?_)
  show _ ↔ ∃ i c, l.text[i]? = some c ∧ ∃ col < 5, ∃ row < 7,
    x = l.x + 6 * i + col ∧ y = l.y + row ∧ glifo c col row = true
  exact_mod_cast Iff.rfl

/-! ## The icons -/

/-- The lines of an icon, one after the other. -/
def oledTracos (tracos : List (ℤ × ℤ × ℤ × ℤ)) (s : SBuffer) : Option SBuffer :=
  tracos.foldlM (fun s t => oledLine t.1 t.2.1 t.2.2.1 t.2.2.2 s) s

def pontosTracos : List (ℤ × ℤ × ℤ × ℤ) → Option (List (ℤ × ℤ))
  | [] => some []
  | (x0, y0, x1, y1) :: tracos => do
      let p ← pontosLinha x0 y0 x1 y1
      let q ← pontosTracos tracos
      some (p ++ q)

theorem oledTracos_eq (tracos : List (ℤ × ℤ × ℤ × ℤ)) (s : SBuffer) :
    oledTracos tracos s = (pontosTracos tracos).map (desenha · s) := by
  induction tracos generalizing s with
  | nil => rfl
  | cons t tracos ih =>
      obtain ⟨x0, y0, x1, y1⟩ := t
      unfold oledTracos at ih
      rw [oledTracos, List.foldlM_cons, oledLine_eq, pontosTracos]
      cases pontosLinha x0 y0 x1 y1 with
      | none => rfl
      | some p =>
          show List.foldlM _ (desenha p s) tracos = _
          rw [ih]
          cases pontosTracos tracos with
          | none => rfl
          | some q => exact congrArg some (desenha_append p q s).symm

/-- The cross of an icon whose link is down. -/
def tracosCruz (x y : ℤ) (ok : Bool) : List (ℤ × ℤ × ℤ × ℤ) :=
  if ok then [] else [(x, y, x + 11, y + 7), (x + 11, y, x, y + 7)]

def tracosWifi (x y : ℤ) (ok : Bool) : List (ℤ × ℤ × ℤ × ℤ) :=
  [(x + 3, y + 5, x + 6, y + 2), (x + 6, y + 2, x + 9, y + 5),
    (x + 1, y + 7, x + 6, y + 1), (x + 6, y + 1, x + 11, y + 7)] ++ tracosCruz x y ok

def tracosMqtt (x y : ℤ) (ok : Bool) : List (ℤ × ℤ × ℤ × ℤ) :=
  [(x + 1, y + 6, x + 6, y + 1), (x + 6, y + 1, x + 11, y + 6),
    (x + 1, y + 6, x + 11, y + 6)] ++ tracosCruz x y ok

theorem oledIconWifi_eq (x y : ℤ) (ok : Bool) (s : SBuffer) :
    oledIconWifi x y ok s = oledTracos (tracosWifi x y ok) (desenha [(x + 6, y + 7)] s) := by
  cases ok with
  | true => simp [oledIconWifi, oledTracos, tracosWifi, tracosCruz, oledCruz, desenha]
  | false => simp [oledIconWifi, oledTracos, tracosWifi, tracosCruz, oledCruz, desenha]

theorem oledIconMqtt_eq (x y : ℤ) (ok : Bool) (s : SBuffer) :
    oledIconMqtt x y ok s = oledTracos (tracosMqtt x y ok)
      (desenha [(x + 1, y + 6), (x + 6, y + 1), (x + 11, y + 6)] s) := by
  cases ok with
  | true => simp [oledIconMqtt, oledTracos, tracosMqtt, tracosCruz, oledCruz, desenha]
  | false => simp [oledIconMqtt, oledTracos, tracosMqtt, tracosCruz, oledCruz, desenha]

/-- The points of the two icons in their places. -/
def pontosWifi (ok : Bool) : List (ℤ × ℤ) :=
  (6, 7) :: (pontosTracos (tracosWifi 0 0 ok)).getD []

def pontosMqtt (ok : Bool) : List (ℤ × ℤ) :=
  [(49, 6), (54, 1), (59, 6)] ++ (pontosTracos (tracosMqtt 48 0 ok)).getD []

/-- **No icon hangs**, wherever it stands. -/
theorem pontosTracos_eq (tracos : List (ℤ × ℤ × ℤ × ℤ)) :
    pontosTracos tracos =
      some (tracos.flatMap fun t => pontosReta t.1 t.2.1 t.2.2.1 t.2.2.2) := by
  induction tracos with
  | nil => rfl
  | cons t tracos ih =>
      rw [pontosTracos, pontosLinha_eq, ih]
      rfl

theorem oledIconWifi_pontos (ok : Bool) (s : SBuffer) :
    oledIconWifi 0 0 ok s = some (desenha (pontosWifi ok) s) := by
  have hp := pontosTracos_eq (tracosWifi 0 0 ok)
  rw [oledIconWifi_eq, oledTracos_eq, pontosWifi, hp]
  exact congrArg some (desenha_append _ _ s).symm

theorem oledIconMqtt_pontos (ok : Bool) (s : SBuffer) :
    oledIconMqtt 48 0 ok s = some (desenha (pontosMqtt ok) s) := by
  have hp := pontosTracos_eq (tracosMqtt 48 0 ok)
  rw [oledIconMqtt_eq, oledTracos_eq, pontosMqtt, hp]
  exact congrArg some (desenha_append _ _ s).symm

def caixaWifi : Box := ⟨0, 0, 12, 8⟩
def caixaMqtt : Box := ⟨48, 0, 12, 8⟩

theorem pontosWifi_caixa :
    ∀ ok, ∀ p ∈ pontosWifi ok, 0 ≤ p.1 ∧ p.1 < 12 ∧ 0 ≤ p.2 ∧ p.2 < 8 := by
  decide +kernel

theorem pontosMqtt_caixa :
    ∀ ok, ∀ p ∈ pontosMqtt ok, 48 ≤ p.1 ∧ p.1 < 60 ∧ 0 ≤ p.2 ∧ p.2 < 8 := by
  decide +kernel

/-- The corner of an icon belongs to its cross. -/
theorem canto_mem_pontosWifi : ∀ ok, (0, 0) ∈ pontosWifi ok ↔ ok = false := by
  decide +kernel

theorem canto_mem_pontosMqtt : ∀ ok, (48, 0) ∈ pontosMqtt ok ↔ ok = false := by
  decide +kernel

def figuraWifi (ok : Bool) : Figure where
  box := caixaWifi
  Lit x y := ((x : ℤ), (y : ℤ)) ∈ pontosWifi ok
  inside x y h := by
    have hbox := pontosWifi_caixa ok _ h
    unfold Box.Has caixaWifi
    dsimp only at hbox ⊢
    omega

def figuraMqtt (ok : Bool) : Figure where
  box := caixaMqtt
  Lit x y := ((x : ℤ), (y : ℤ)) ∈ pontosMqtt ok
  inside x y h := by
    have hbox := pontosMqtt_caixa ok _ h
    unfold Box.Has caixaMqtt
    dsimp only at hbox ⊢
    omega

/-! ## The screen of one call -/

/-- The arguments of a call: any flags, any mode, rates that `fluxo.cpp` can hold. -/
structure Status (A : Rounding) where
  wifiConnected : Bool
  mqttConnected : Bool
  modo : ModoOperacao
  fluxoFrio : ℚ
  fluxoQuente : ℚ
  frioPossivel : TaxaPossivel A fluxoFrio
  quentePossivel : TaxaPossivel A fluxoQuente

namespace Status

variable {A : Rounding} (c : Status A)

def mostra (erros : ℕ → Bool) (o : Oled) : Option Oled :=
  oledShowStatus erros c.wifiConnected c.mqttConnected (modosNome c.modo) c.fluxoFrio
    c.fluxoQuente o

/-- The texts of the three `snprintf`, before they are cut. -/
def linhaModo : Text := "M:".toList ++ (modosNome c.modo).toList
def linhaFrio : Text := "F=".toList ++ fixo2 c.fluxoFrio ++ " L/MIN".toList
def linhaQuente : Text := "Q=".toList ++ fixo2 c.fluxoQuente ++ " L/MIN".toList

def linhas : List Text := [c.linhaModo, c.linhaFrio, c.linhaQuente]

theorem length_linhaModo : c.linhaModo.length ≤ 8 := by
  cases h : c.modo <;> simp [linhaModo, h, modosNome]

theorem length_linhaFrio : c.linhaFrio.length ≤ 20 := by
  have h := c.frioPossivel.length_fixo2_le
  simp [linhaFrio]
  omega

theorem length_linhaQuente : c.linhaQuente.length ≤ 20 := by
  have h := c.quentePossivel.length_fixo2_le
  simp [linhaQuente]
  omega

/-- **No line is cut.** -/
theorem length_linha {l : Text} (hl : l ∈ c.linhas) : l.length ≤ 20 := by
  simp only [linhas, List.mem_cons, List.not_mem_nil, or_false] at hl
  rcases hl with rfl | rfl | rfl
  · exact c.length_linhaModo.trans (by decide)
  · exact c.length_linhaFrio
  · exact c.length_linhaQuente

def rotuloWifi : Label Char := ⟨14, 0, 4, "WIFI".toList, by decide⟩
def rotuloMqtt : Label Char := ⟨62, 0, 4, "MQTT".toList, by decide⟩
def rotuloModo : Label Char := ⟨0, 18, 21, c.linhaModo, c.length_linhaModo.trans (by decide)⟩
def rotuloFrio : Label Char := ⟨0, 34, 21, c.linhaFrio, c.length_linhaFrio.trans (by decide)⟩
def rotuloQuente : Label Char :=
  ⟨0, 50, 21, c.linhaQuente, c.length_linhaQuente.trans (by decide)⟩

def rotulos : List (Label Char) :=
  [rotuloWifi, rotuloMqtt, c.rotuloModo, c.rotuloFrio, c.rotuloQuente]

/-- What stands on the screen. -/
def pagina : List Figure :=
  figuraWifi c.wifiConnected :: figuraMqtt c.mqttConnected ::
    c.rotulos.map (Label.figure fonte)

/-- The rooms of the figures, the same for every call. -/
def salas : List Box :=
  [caixaWifi, caixaMqtt, ⟨14, 0, 24, 7⟩, ⟨62, 0, 24, 7⟩, ⟨0, 18, 126, 7⟩, ⟨0, 34, 126, 7⟩,
    ⟨0, 50, 126, 7⟩]

theorem pagina_box : c.pagina.map Figure.box = salas := rfl

theorem pagina_apart : c.pagina.Pairwise fun f g => f.box.Apart g.box := by
  have hsalas : salas.Pairwise Box.Apart := by decide
  rwa [← c.pagina_box, List.pairwise_map] at hsalas

/-- The 128 by 64 pixels. -/
def tela : Box := ⟨0, 0, 128, 64⟩

theorem box_inside {f : Figure} (hf : f ∈ c.pagina) : f.box.Inside tela := by
  have hsalas : ∀ b ∈ salas, b.Inside tela := by decide
  apply hsalas
  rw [← c.pagina_box]
  exact List.mem_map_of_mem hf

theorem naTela {f : Figure} (hf : f ∈ c.pagina) (x y : ℕ) :
    (¬ foraDaTela x y ∧ f.Lit x y) ↔ f.Lit x y := by
  refine and_iff_right_of_imp fun hlit => ?_
  have hbox := (c.box_inside hf).has (f.inside x y hlit)
  unfold Box.Has tela at hbox
  unfold foraDaTela oledWidth oledHeight
  dsimp only at hbox
  omega

/-- **The framebuffer is the page.** -/
theorem desenhaStatus_pagina :
    ∃ buf, desenhaStatus c.wifiConnected c.mqttConnected (modosNome c.modo).toList
        (fixo2 c.fluxoFrio) (fixo2 c.fluxoQuente) oledClearBuffer = some buf ∧
      ∀ x y : ℕ, aceso buf x y = true ↔ ∃ f ∈ c.pagina, f.Lit x y := by
  have hmodo : snprintf 32 ("M:".toList ++ (modosNome c.modo).toList) = c.linhaModo :=
    snprintf_of_lt (Nat.lt_of_le_of_lt c.length_linhaModo (by decide))
  have hfrio : snprintf 32 ("F=".toList ++ fixo2 c.fluxoFrio ++ " L/MIN".toList) =
      c.linhaFrio := snprintf_of_lt (Nat.lt_of_le_of_lt c.length_linhaFrio (by decide))
  have hquente : snprintf 32 ("Q=".toList ++ fixo2 c.fluxoQuente ++ " L/MIN".toList) =
      c.linhaQuente := snprintf_of_lt (Nat.lt_of_le_of_lt c.length_linhaQuente (by decide))
  unfold desenhaStatus
  rw [oledIconWifi_pontos, hmodo, hfrio, hquente]
  simp only [Option.bind_eq_bind, Option.bind_some, oledIconMqtt_pontos]
  refine ⟨_, rfl, ?_⟩
  intro x y
  -- the figures in the order in which they are drawn
  show aceso (escreve c.rotuloQuente (escreve c.rotuloFrio (escreve c.rotuloModo
    (escreve rotuloMqtt (desenha (pontosMqtt c.mqttConnected) (escreve rotuloWifi
      (desenha (pontosWifi c.wifiConnected) oledClearBuffer))))))) x y = true ↔ _
  rw [aceso_escreve, aceso_escreve, aceso_escreve, aceso_escreve, aceso_desenha,
    aceso_escreve, aceso_desenha, aceso_clear]
  constructor
  · rintro (((((((h | ⟨-, h⟩) | ⟨-, h⟩) | ⟨-, h⟩) | ⟨-, h⟩) | ⟨-, h⟩) | ⟨-, h⟩) | ⟨-, h⟩)
    · cases h
    · exact ⟨figuraWifi c.wifiConnected, by simp [pagina], h⟩
    · exact ⟨rotuloWifi.figure fonte, by simp [pagina, rotulos], h⟩
    · exact ⟨figuraMqtt c.mqttConnected, by simp [pagina], h⟩
    · exact ⟨rotuloMqtt.figure fonte, by simp [pagina, rotulos], h⟩
    · exact ⟨c.rotuloModo.figure fonte, by simp [pagina, rotulos], h⟩
    · exact ⟨c.rotuloFrio.figure fonte, by simp [pagina, rotulos], h⟩
    · exact ⟨c.rotuloQuente.figure fonte, by simp [pagina, rotulos], h⟩
  · rintro ⟨f, hf, h⟩
    have hfora := (c.naTela hf x y).mpr h
    simp only [pagina, rotulos, List.map_cons, List.map_nil, List.mem_cons, List.not_mem_nil,
      or_false] at hf
    rcases hf with rfl | rfl | rfl | rfl | rfl | rfl | rfl
    · exact Or.inl (Or.inl (Or.inl (Or.inl (Or.inl (Or.inl (Or.inr hfora))))))
    · exact Or.inl (Or.inl (Or.inl (Or.inl (Or.inr hfora))))
    · exact Or.inl (Or.inl (Or.inl (Or.inl (Or.inl (Or.inr hfora)))))
    · exact Or.inl (Or.inl (Or.inl (Or.inr hfora)))
    · exact Or.inl (Or.inl (Or.inr hfora))
    · exact Or.inl (Or.inr hfora)
    · exact Or.inr hfora

/-! ## What is printed has a glyph -/

theorem mem_alfabeto_of_isDigit {ch : Char} (h : ch.isDigit = true) : ch ∈ alfabeto := by
  have hall : ∀ n < 58, 48 ≤ n → Char.ofNat n ∈ alfabeto := by decide
  have hrange : 48 ≤ ch.toNat ∧ ch.toNat ≤ 57 := Char.isDigit_iff_toNat.mp h
  rw [← Char.ofNat_toNat ch]
  exact hall _ (by omega) (by omega)

theorem mem_alfabeto_linha {q : ℚ} (hq : TaxaPossivel A q) {inicio : Text}
    (hinicio : inicio ⊆ alfabeto) : inicio ++ fixo2 q ++ " L/MIN".toList ⊆ alfabeto := by
  intro ch hch
  simp only [List.mem_append] at hch
  rcases hch with (hch | hch) | hch
  · exact hinicio hch
  · rcases hq.mem_fixo2 hch with hdigit | rfl
    · exact mem_alfabeto_of_isDigit hdigit
    · decide
  · have hall : " L/MIN".toList ⊆ alfabeto := by decide
    exact hall hch

theorem mem_alfabeto {l : Label Char} (hl : l ∈ c.rotulos) : l.text ⊆ alfabeto := by
  have hmodo : ∀ m, "M:".toList ++ (modosNome m).toList ⊆ alfabeto := by
    intro m
    cases m <;> decide
  simp only [rotulos, List.mem_cons, List.not_mem_nil, or_false] at hl
  rcases hl with rfl | rfl | rfl | rfl | rfl
  · show "WIFI".toList ⊆ alfabeto
    decide
  · show "MQTT".toList ⊆ alfabeto
    decide
  · exact hmodo c.modo
  · exact mem_alfabeto_linha c.frioPossivel (by decide)
  · exact mem_alfabeto_linha c.quentePossivel (by decide)

/-! ## Boxes -/

/-- The boxes of the icons and of every character. -/
def caixas : List Box :=
  caixaWifi :: caixaMqtt :: c.rotulos.flatMap (Label.cells fonte)

/-- Each box is inside the room of a figure. -/
theorem caixas_pairwise : c.caixas.Pairwise Box.Apart := by
  have hapart := c.pagina_apart
  simp only [pagina, List.pairwise_cons, List.pairwise_map] at hapart
  obtain ⟨hwifi, hmqtt, hrotulos⟩ := hapart
  have hcell {b : Box} (hb : b ∈ c.rotulos.flatMap (Label.cells fonte)) :
      ∃ f ∈ c.rotulos.map (Label.figure fonte), b.Inside f.box := by
    obtain ⟨l, hl, hb⟩ := List.mem_flatMap.mp hb
    exact ⟨l.figure fonte, List.mem_map_of_mem hl, Label.cell_inside hb⟩
  -- the icons against all that follows; among the characters the library has it
  refine List.Pairwise.cons ?_ (List.Pairwise.cons ?_ (Label.cells_pairwise hrotulos))
  · intro b hb
    rcases List.mem_cons.mp hb with rfl | hb
    · exact hwifi _ List.mem_cons_self
    · obtain ⟨f, hf, hbf⟩ := hcell hb
      exact (hwifi f (List.mem_cons_of_mem _ hf)).mono (.refl _) hbf
  · intro b hb
    obtain ⟨f, hf, hbf⟩ := hcell hb
    exact (hmqtt f hf).mono (.refl _) hbf

theorem caixas_inside {b : Box} (hb : b ∈ c.caixas) : b.Inside tela := by
  rcases List.mem_cons.mp hb with rfl | hb
  · decide
  rcases List.mem_cons.mp hb with rfl | hb
  · decide
  obtain ⟨l, hl, hb⟩ := List.mem_flatMap.mp hb
  refine (Label.cell_inside hb).trans (c.box_inside ?_)
  exact List.mem_cons_of_mem _ (List.mem_cons_of_mem _ (List.mem_map_of_mem hl))

/-! ## Reading the screen back -/

end Status

/-- What the screen tells. -/
structure Leitura where
  wifiConnected : Bool
  mqttConnected : Bool
  modo : Text
  fluxoFrio : Text
  fluxoQuente : Text
deriving DecidableEq

/-- The line of text whose top row is `y`. -/
def leLinha (buf : SBuffer) (y : ℕ) : Text :=
  fonte.read ' ' alfabeto (fun x y => aceso buf x y) 0 y 21

/-- The decoder: a corner of each icon, and the lines without their captions. -/
def leTela (buf : SBuffer) : Leitura where
  wifiConnected := !aceso buf 0 0
  mqttConnected := !aceso buf 48 0
  modo := (leLinha buf 18).drop 2
  fluxoFrio := ((leLinha buf 34).drop 2).rdrop 6
  fluxoQuente := ((leLinha buf 50).drop 2).rdrop 6

namespace Status

variable {A : Rounding} (c : Status A)

def visivel : Leitura where
  wifiConnected := c.wifiConnected
  mqttConnected := c.mqttConnected
  modo := (modosNome c.modo).toList
  fluxoFrio := fixo2 c.fluxoFrio
  fluxoQuente := fixo2 c.fluxoQuente

/-- The framebuffer lights what the page of the call does. -/
def Mostra (buf : SBuffer) : Prop :=
  ∀ x y : ℕ, aceso buf x y = true ↔ ∃ f ∈ c.pagina, f.Lit x y

variable {c} {buf : SBuffer}

/-- **A line.** -/
theorem Mostra.leLinha (h : c.Mostra buf) {l : Label Char} (hl : l ∈ c.rotulos)
    (hx : l.x = 0) (hn : l.n = 21) (hlast : l.text.getLast? ≠ some ' ') :
    leLinha buf l.y = l.text := by
  have hpage : l.figure fonte ∈ c.pagina :=
    List.mem_cons_of_mem _ (List.mem_cons_of_mem _ (List.mem_map_of_mem hl))
  have hread := fonte_legible.read_eq c.pagina_apart hpage (fun x y _ => h x y)
    (fun ch hch => c.mem_alfabeto hl hch) hlast
  rwa [hx, hn] at hread

theorem Mostra.wifi (h : c.Mostra buf) : aceso buf 0 0 = !c.wifiConnected := by
  have hcanto := Figure.lit_page c.pagina_apart (f := figuraWifi c.wifiConnected)
    List.mem_cons_self (show caixaWifi.Has 0 0 by decide)
  have hlit := (h 0 0).trans (hcanto.trans (canto_mem_pontosWifi c.wifiConnected))
  rw [Bool.eq_iff_iff, Bool.not_eq_true']
  exact hlit

theorem Mostra.mqtt (h : c.Mostra buf) : aceso buf 48 0 = !c.mqttConnected := by
  have hcanto := Figure.lit_page c.pagina_apart (f := figuraMqtt c.mqttConnected)
    (List.mem_cons_of_mem _ List.mem_cons_self) (show caixaMqtt.Has 48 0 by decide)
  have hlit := (h 48 0).trans (hcanto.trans (canto_mem_pontosMqtt c.mqttConnected))
  rw [Bool.eq_iff_iff, Bool.not_eq_true']
  exact hlit

theorem rdrop_linha {inicio : Text} (t : Text) (h : inicio.length = 2) :
    ((inicio ++ t ++ " L/MIN".toList).drop 2).rdrop 6 = t := by
  rw [List.append_assoc, List.drop_left' h, List.rdrop]
  apply List.take_left'
  simp

theorem getLast?_linha (inicio t : Text) :
    (inicio ++ t ++ " L/MIN".toList).getLast? ≠ some ' ' := by
  simp

/-- **The decoder reads every screen right.** -/
theorem Mostra.leTela (h : c.Mostra buf) : leTela buf = c.visivel := by
  have hlast : ∀ m, ("M:".toList ++ (modosNome m).toList).getLast? ≠ some ' ' := by
    intro m
    cases m <;> decide
  have hmodo := h.leLinha (l := c.rotuloModo) (by simp [rotulos]) rfl rfl (hlast c.modo)
  have hfrio := h.leLinha (l := c.rotuloFrio) (by simp [rotulos]) rfl rfl
    (getLast?_linha _ _)
  have hquente := h.leLinha (l := c.rotuloQuente) (by simp [rotulos]) rfl rfl
    (getLast?_linha _ _)
  change HidroControl.leLinha buf 18 = "M:".toList ++ _ at hmodo
  change HidroControl.leLinha buf 34 = "F=".toList ++ _ ++ " L/MIN".toList at hfrio
  change HidroControl.leLinha buf 50 = "Q=".toList ++ _ ++ " L/MIN".toList at hquente
  unfold HidroControl.leTela visivel
  rw [h.wifi, h.mqtt, hmodo, hfrio, hquente, rdrop_linha _ rfl, rdrop_linha _ rfl,
    List.drop_left' (show "M:".toList.length = 2 from rfl), Bool.not_not, Bool.not_not]

variable (c) in
/-- What a framebuffer must be to lose nothing of a call. -/
structure Inteira (buf : SBuffer) : Prop where
  /-- No line is cut by the buffer of 32 bytes. -/
  linhas : ∀ l ∈ c.linhas, l.length < 32
  /-- Each character has a `case` of its own in `font5x7`, and no other has its
  glyph. -/
  glifos : ∀ l ∈ c.rotulos, ∀ ch ∈ l.text,
    ch ∈ alfabeto ∧ ∀ a ∈ alfabeto, font5x7 a = font5x7 ch → a = ch
  dentro : ∀ b ∈ c.caixas, b.Inside tela
  separadas : c.caixas.Pairwise Box.Apart
  /-- Each character's cell shows its glyph and nothing else. -/
  celulas : ∀ l ∈ c.rotulos, ∀ i ch, l.text[i]? = some ch → ∀ col < 5, ∀ row < 7,
    aceso buf (l.x + 6 * i + col : ℕ) (l.y + row : ℕ) = glifo ch col row
  leitura : leTela buf = c.visivel

theorem Mostra.inteira (h : c.Mostra buf) : c.Inteira buf where
  linhas l hl := (c.length_linha hl).trans_lt (by decide)
  glifos l hl ch hch := by
    have hmem := c.mem_alfabeto hl hch
    refine ⟨hmem, ?_⟩
    intro a ha hglifo
    apply fonte_legible.distinct a ha ch hmem
    intro col _ row _
    show glifo a col row = glifo ch col row
    rw [glifo, glifo, hglifo]
  dentro b hb := c.caixas_inside hb
  separadas := c.caixas_pairwise
  celulas := by
    intro l hl i ch hch col hcol row hrow
    have hi : i < l.n := (List.getElem?_eq_some_iff.mp hch).1.trans_le l.fits
    have hpage : l.figure fonte ∈ c.pagina :=
      List.mem_cons_of_mem _ (List.mem_cons_of_mem _ (List.mem_map_of_mem hl))
    have hcell := Label.lit_cell c.pagina_apart hpage hi hcol hrow
    rw [Bool.eq_iff_iff, h]
    refine hcell.trans ?_
    rw [hch]
    simp [fonte]
  leitura := h.leTela

/-- Every call of a ready driver draws a screen. -/
theorem mostra_eq (c : Status A) (erros : ℕ → Bool) {o : Oled} (hok : o.sOk = true) :
    ∃ r, c.mostra erros o = some r ∧ c.Mostra r.sBuffer := by
  obtain ⟨buf, hbuf, hpagina⟩ := c.desenhaStatus_pagina
  refine ⟨{ o with sBuffer := buf, barramento := oledFlush erros buf o.barramento }, ?_, hpagina⟩
  simp [mostra, oledShowStatus, hok, hbuf]

/-- **The screen loses nothing.** Every call draws all it is given, nothing cut,
clipped or covered, the decoder reads it back, and two calls with the same framebuffer
have the same flags, the same mode and the same printed rates. -/
theorem tela_sem_perda (c c' : Status A) (erros erros' : ℕ → Bool) (o o' : Oled)
    (hok : o.sOk = true) (hok' : o'.sOk = true) :
    ∃ r r', c.mostra erros o = some r ∧ c'.mostra erros' o' = some r' ∧
      c.Inteira r.sBuffer ∧ c'.Inteira r'.sBuffer ∧
      (r.sBuffer = r'.sBuffer →
        c.wifiConnected = c'.wifiConnected ∧ c.mqttConnected = c'.mqttConnected ∧
        c.modo = c'.modo ∧ fixo2 c.fluxoFrio = fixo2 c'.fluxoFrio ∧
        fixo2 c.fluxoQuente = fixo2 c'.fluxoQuente) := by
  obtain ⟨r, hr, hmostra⟩ := c.mostra_eq erros hok
  obtain ⟨r', hr', hmostra'⟩ := c'.mostra_eq erros' hok'
  refine ⟨r, r', hr, hr', hmostra.inteira, hmostra'.inteira, ?_⟩
  intro hbuf
  -- both are what the decoder reads off the one framebuffer
  have hvisivel : c.visivel = c'.visivel := by
    rw [← hmostra.leTela, ← hmostra'.leTela, hbuf]
  unfold visivel at hvisivel
  injection hvisivel with hwifi hmqtt hmodo hfrio hquente
  exact ⟨hwifi, hmqtt, modosNome_injective (String.toList_injective hmodo), hfrio, hquente⟩

/-- Cold water at 5 litres a minute, then none. -/
def comAgua : Status .exact :=
  ⟨true, false, .duo, lmin .exact 33 1000000, 0, Or.inr ⟨33, 1000000, le_rfl, rfl⟩,
    taxaPossivel_zero .exact⟩

def semAgua : Status .exact :=
  ⟨true, false, .duo, 0, 0, taxaPossivel_zero .exact, taxaPossivel_zero .exact⟩

def oledPronto : Oled := ⟨oledClearBuffer, true, { display := { ram := fun _ _ => 0 } }⟩

theorem comAgua_ne_semAgua :
    ∃ r r', comAgua.mostra (fun _ => false) oledPronto = some r ∧
      semAgua.mostra (fun _ => false) oledPronto = some r' ∧ r.sBuffer ≠ r'.sBuffer := by
  have hrate : fixo2 comAgua.fluxoFrio ≠ fixo2 semAgua.fluxoFrio := by decide +kernel
  obtain ⟨r, r', hr, hr', -, -, hsame⟩ := tela_sem_perda comAgua semAgua (fun _ => false)
    (fun _ => false) oledPronto oledPronto rfl rfl
  refine ⟨r, r', hr, hr', ?_⟩
  intro hbuf
  exact hrate (hsame hbuf).2.2.2.1

end Status

end HidroControl
