import HidroControl.Ssd1306
import HidroControl.Taxas

/-!
# `oled.cpp` — the framebuffer and the bus

The driver draws into `s_buffer`, one bit a pixel and eight rows a byte, and
`oled_flush` sends the buffer to the controller in transfers of at most 16 bytes.
Whether a transfer is answered is up to the bus: `erros k` says that transfer
number `k` fails, in which case the controller has seen none of it.

`oled_line` loops until both coordinates have arrived. Its fuel is the number of
unit steps between the two ends, and `none` says that it was not enough. The
integers of the drawing functions are exact: no coordinate here comes near the
ends of `int`.
-/

namespace HidroControl

open CText

/-! ## The framebuffer -/

def oledWidth : ℕ := 128
def oledHeight : ℕ := 64

/-- `s_buffer[OLED_WIDTH * OLED_HEIGHT / 8]`. -/
abbrev SBuffer : Type := Vector UInt8 1024

def oledClearBuffer : SBuffer := Vector.replicate 1024 0

/-- `uint16_t index = x + (y / 8) * OLED_WIDTH`. -/
def pixelIndex (x y : ℤ) : ℕ := (x + y / 8 * oledWidth).toNat % 65536

/-- `uint8_t bit = 1 << (y & 7)`. -/
def pixelBit (y : ℤ) : UInt8 := 1 <<< UInt8.ofNat (y % 8).toNat

def foraDaTela (x y : ℤ) : Prop := x < 0 ∨ oledWidth ≤ x ∨ y < 0 ∨ oledHeight ≤ y

instance (x y : ℤ) : Decidable (foraDaTela x y) :=
  inferInstanceAs (Decidable (_ ∨ _))

theorem pixelIndex_lt {x y : ℤ} (h : ¬ foraDaTela x y) : pixelIndex x y < 1024 := by
  unfold foraDaTela oledWidth oledHeight at h
  unfold pixelIndex oledWidth
  omega

def oledPixel (x y : ℤ) (on : Bool) (s : SBuffer) : SBuffer :=
  if h : foraDaTela x y then s
  else
    have hi : pixelIndex x y < 1024 := pixelIndex_lt h
    let v := s[pixelIndex x y]
    s.set (pixelIndex x y) (if on then v ||| pixelBit y else v &&& ~~~ pixelBit y) hi

/-- The `while (true)` of `oled_line`. -/
def oledLineLoop (x1 y1 dx dy sx sy : ℤ) : ℕ → ℤ → ℤ → ℤ → SBuffer → Option SBuffer
  | 0, _, _, _, _ => none
  | fuel + 1, x0, y0, err, s =>
      let s := oledPixel x0 y0 true s
      if x0 = x1 ∧ y0 = y1 then some s
      else
        let e2 := 2 * err
        let (err, x0) := if dy ≤ e2 then (err + dy, x0 + sx) else (err, x0)
        let (err, y0) := if e2 ≤ dx then (err + dx, y0 + sy) else (err, y0)
        oledLineLoop x1 y1 dx dy sx sy fuel x0 y0 err s

def oledLine (x0 y0 x1 y1 : ℤ) (s : SBuffer) : Option SBuffer :=
  let dx : ℤ := |x1 - x0|
  let sx : ℤ := if x0 < x1 then 1 else -1
  let dy : ℤ := -|y1 - y0|
  let sy : ℤ := if y0 < y1 then 1 else -1
  oledLineLoop x1 y1 dx dy sx sy ((dx - dy).toNat + 1) x0 y0 (dx + dy) s

/-! ## Text -/

/-- The `switch` of `font5x7`, column by column. -/
def tabela5x7 : List (Char × List UInt8) :=
  [(' ', [0, 0, 0, 0, 0]),
    ('=', [0x14, 0x14, 0x14, 0x14, 0x14]),
    ('.', [0x00, 0x60, 0x60, 0x00, 0x00]),
    (':', [0x00, 0x36, 0x36, 0x00, 0x00]),
    ('/', [0x20, 0x10, 0x08, 0x04, 0x02]),
    ('0', [0x3E, 0x51, 0x49, 0x45, 0x3E]),
    ('1', [0x00, 0x42, 0x7F, 0x40, 0x00]),
    ('2', [0x42, 0x61, 0x51, 0x49, 0x46]),
    ('3', [0x21, 0x41, 0x45, 0x4B, 0x31]),
    ('4', [0x18, 0x14, 0x12, 0x7F, 0x10]),
    ('5', [0x27, 0x45, 0x45, 0x45, 0x39]),
    ('6', [0x3C, 0x4A, 0x49, 0x49, 0x30]),
    ('7', [0x01, 0x71, 0x09, 0x05, 0x03]),
    ('8', [0x36, 0x49, 0x49, 0x49, 0x36]),
    ('9', [0x06, 0x49, 0x49, 0x29, 0x1E]),
    ('A', [0x7E, 0x11, 0x11, 0x11, 0x7E]),
    ('D', [0x7F, 0x41, 0x41, 0x22, 0x1C]),
    ('E', [0x7F, 0x49, 0x49, 0x49, 0x41]),
    ('F', [0x7F, 0x09, 0x09, 0x09, 0x01]),
    ('I', [0x00, 0x41, 0x7F, 0x41, 0x00]),
    ('L', [0x7F, 0x40, 0x40, 0x40, 0x40]),
    ('M', [0x7F, 0x02, 0x0C, 0x02, 0x7F]),
    ('N', [0x7F, 0x04, 0x08, 0x10, 0x7F]),
    ('O', [0x3E, 0x41, 0x41, 0x41, 0x3E]),
    ('Q', [0x3E, 0x41, 0x51, 0x21, 0x5E]),
    ('R', [0x7F, 0x09, 0x19, 0x29, 0x46]),
    ('T', [0x01, 0x01, 0x7F, 0x01, 0x01]),
    ('U', [0x3F, 0x40, 0x40, 0x40, 0x3F]),
    ('W', [0x7F, 0x20, 0x18, 0x20, 0x7F]),
    ('X', [0x63, 0x14, 0x08, 0x14, 0x63])]

/-- The five columns of a character; `default` is the blank. -/
def font5x7 (c : Char) : List UInt8 :=
  (tabela5x7.lookup c).getD [0, 0, 0, 0, 0]

/-- `line & (1 << row)`. -/
def linhaAcesa (line : UInt8) (row : ℕ) : Bool := line.toNat.testBit row

def oledChar (x y : ℤ) (c : Char) (s : SBuffer) : SBuffer :=
  (List.range 5).foldl (fun s col =>
    let line := (font5x7 c).getD col 0
    (List.range 7).foldl (fun s row =>
      if linhaAcesa line row then oledPixel (x + col) (y + row) true s else s) s) s

def oledText (x y : ℤ) : Text → SBuffer → SBuffer
  | [], s => s
  | c :: txt, s => oledText (x + 6) y txt (oledChar x y c s)

/-! ## Icons and the status screen -/

/-- The cross over an icon whose link is down. -/
def oledCruz (x y : ℤ) (ok : Bool) (s : SBuffer) : Option SBuffer :=
  if !ok then do
    let s ← oledLine x y (x + 11) (y + 7) s
    oledLine (x + 11) y x (y + 7) s
  else some s

def oledIconWifi (x y : ℤ) (ok : Bool) (s : SBuffer) : Option SBuffer := do
  let s := oledPixel (x + 6) (y + 7) true s
  let s ← oledLine (x + 3) (y + 5) (x + 6) (y + 2) s
  let s ← oledLine (x + 6) (y + 2) (x + 9) (y + 5) s
  let s ← oledLine (x + 1) (y + 7) (x + 6) (y + 1) s
  let s ← oledLine (x + 6) (y + 1) (x + 11) (y + 7) s
  oledCruz x y ok s

def oledIconMqtt (x y : ℤ) (ok : Bool) (s : SBuffer) : Option SBuffer := do
  let s := oledPixel (x + 1) (y + 6) true s
  let s := oledPixel (x + 6) (y + 1) true s
  let s := oledPixel (x + 11) (y + 6) true s
  let s ← oledLine (x + 1) (y + 6) (x + 6) (y + 1) s
  let s ← oledLine (x + 6) (y + 1) (x + 11) (y + 6) s
  let s ← oledLine (x + 1) (y + 6) (x + 11) (y + 6) s
  oledCruz x y ok s

/-! ## The bus -/

/-- The controller, how many transfers have been tried, and how many bytes of data have
arrived. -/
structure Barramento where
  display : Ssd1306
  transferencias : ℕ := 0
  entregues : ℕ := 0

/-- The data in a transfer. -/
def dadosDe : List UInt8 → List UInt8
  | 0x40 :: dados => dados
  | _ => []

/-- `i2c_master_transmit`: whether it returned `ESP_OK`, and the bus after it. -/
def transmite (erros : ℕ → Bool) (tx : List UInt8) (s : Barramento) :
    Bool × Barramento :=
  if erros s.transferencias then
    (false, { s with transferencias := s.transferencias + 1 })
  else
    (true, { display := s.display.recebe tx
             transferencias := s.transferencias + 1
             entregues := s.entregues + (dadosDe tx).length })

def oledWriteCmd (erros : ℕ → Bool) (cmd : UInt8) (s : Barramento) : Bool × Barramento :=
  transmite erros [0x00, cmd] s

/-- The `while (offset < len)` of `oled_write_data`. -/
def oledWriteDataLoop (erros : ℕ → Bool) (data : List UInt8) (offset : ℕ)
    (s : Barramento) : Bool × Barramento :=
  if offset < data.length then
    let chunk := min (data.length - offset) 16
    let (ok, s) := transmite erros (0x40 :: (data.drop offset).take chunk) s
    if ok then oledWriteDataLoop erros data (offset + chunk) s else (false, s)
  else (true, s)
termination_by data.length - offset

def oledWriteData (erros : ℕ → Bool) (data : List UInt8) (s : Barramento) :
    Bool × Barramento :=
  oledWriteDataLoop erros data 0 s

/-- `&s_buffer[OLED_WIDTH * page]` and the 127 bytes behind it. -/
def SBuffer.pagina (buf : SBuffer) (page : ℕ) : List UInt8 :=
  (buf.toList.drop (oledWidth * page)).take oledWidth

/-- One turn of the loop of `oled_flush`. Nobody looks at what the transfers
returned. -/
def oledFlushPage (erros : ℕ → Bool) (buf : SBuffer) (page : ℕ) (s : Barramento) :
    Barramento :=
  let s := (oledWriteCmd erros (0xB0 + UInt8.ofNat page) s).2
  let s := (oledWriteCmd erros 0x00 s).2
  let s := (oledWriteCmd erros 0x10 s).2
  (oledWriteData erros (buf.pagina page) s).2

def oledFlush (erros : ℕ → Bool) (buf : SBuffer) (s : Barramento) : Barramento :=
  (List.range 8).foldl (fun s page => oledFlushPage erros buf page s) s

/-! ## The driver -/

structure Oled where
  sBuffer : SBuffer
  sOk : Bool := false
  barramento : Barramento

def initCmds : List UInt8 :=
  [0xAE, 0x20, 0x00, 0xB0, 0xC8, 0x00, 0x10,
    0x40, 0x81, 0x7F, 0xA1, 0xA6, 0xA8, 0x3F,
    0xA4, 0xD3, 0x00, 0xD5, 0x80, 0xD9, 0xF1,
    0xDA, 0x12, 0xDB, 0x40, 0x8D, 0x14, 0xAF]

/-- `bus` and `dispositivo` say whether the driver library could create the bus
and add the device. -/
def oledInit (erros : ℕ → Bool) (bus dispositivo : Bool) (s : Oled) : Oled :=
  if !bus then s
  else if !dispositivo then s
  else
    let b := initCmds.foldl (fun b cmd => (oledWriteCmd erros cmd b).2) s.barramento
    { sBuffer := oledClearBuffer
      sOk := true
      barramento := oledFlush erros oledClearBuffer b }

/-- Everything `oled_show_status` draws. The rates are printed as `%.2f` prints
them. -/
def desenhaStatus (wifiConnected mqttConnected : Bool) (modo : Text)
    (fluxoFrio fluxoQuente : Text) (s : SBuffer) : Option SBuffer := do
  let s ← oledIconWifi 0 0 wifiConnected s
  let s := oledText 14 0 "WIFI".toList s
  let s ← oledIconMqtt 48 0 mqttConnected s
  let s := oledText 62 0 "MQTT".toList s
  let s := oledText 0 18 (snprintf 32 ("M:".toList ++ modo)) s
  let s := oledText 0 34 (snprintf 32 ("F=".toList ++ fluxoFrio ++ " L/MIN".toList)) s
  some (oledText 0 50 (snprintf 32 ("Q=".toList ++ fluxoQuente ++ " L/MIN".toList)) s)

def oledShowStatus (erros : ℕ → Bool) (wifiConnected mqttConnected : Bool)
    (modo : String) (fluxoFrio fluxoQuente : ℚ) (s : Oled) : Option Oled :=
  if !s.sOk then some s
  else do
    let buf ← desenhaStatus wifiConnected mqttConnected modo.toList (fixo2 fluxoFrio)
      (fixo2 fluxoQuente) oledClearBuffer
    some { s with sBuffer := buf, barramento := oledFlush erros buf s.barramento }

end HidroControl
