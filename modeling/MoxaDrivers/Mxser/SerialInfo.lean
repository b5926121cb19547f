import MoxaDrivers.Mxser.Speed

/-!
# `TIOCGSERIAL` and `TIOCSSERIAL`

`mxser_get_serial_info`, and `mxser_set_serial_info`: who may change what, the
division that a privileged caller can bring about, and the UART type, which is
taken over as it comes.
-/

namespace MoxaDrivers.Mxser

open MoxaDrivers.Bits MoxaDrivers.Machine

/-- What `mxser_set_serial_info` looks at in `struct serial_struct`. -/
structure SerialStruct where
  type : Int
  port : Nat
  irq : Int
  flags : Word
  baudBase : Int
  closeDelay : BitVec 16
  closingWait : BitVec 16
  customDivisor : Int
  deriving DecidableEq, Repr

/-- `struct serial_struct` as `mxser_get_serial_info` fills it. -/
structure SerialInfo extends SerialStruct where
  line : Nat
  hub6 : Int
  deriving DecidableEq, Repr

/-- `mxser_get_serial_info`; the `port` of `struct serial_struct` is an
`unsigned int`, and its `close_delay` an `unsigned short`. -/
def mxserGetSerialInfo (p : Port) : SerialInfo where
  type := p.type
  line := p.port
  port := p.base % 2 ^ 32
  irq := p.irq
  flags := p.flags
  baudBase := p.rate.baudBase
  closeDelay := BitVec.ofInt 16 p.opens.closeDelay
  closingWait := p.opens.closingWait
  customDivisor := p.rate.customDivisor
  hub6 := 0

/-- The changes a caller without `CAP_SYS_ADMIN` may make. -/
def userSerialInfo (p : Port) (new : SerialStruct) : Port :=
  { p with flags := (p.flags &&& ~~~asyncUsrMask) ||| (new.flags &&& asyncUsrMask) }

/-- Those of a privileged caller; a new `baud_base` or `custom_divisor` only sets
`custom_baud_rate`. -/
def adminSerialInfo (HZ : Int) (p : Port) (new : SerialStruct) : Except Fault Port := do
  let custom ←
    if new.baudBase ≠ p.rate.baudBase ∨ new.customDivisor ≠ p.rate.customDivisor
    then cdiv new.baudBase new.customDivisor else pure p.rate.customBaudRate
  let flags := (p.flags &&& ~~~asyncFlags) ||| (new.flags &&& asyncFlags)
  return { p with
    flags := flags
    opens := { p.opens with
      closeDelay := (new.closeDelay.toNat * HZ).tdiv 100
      closingWait := BitVec.ofInt 16 ((new.closingWait.toNat * HZ).tdiv 100) }
    tty := { p.tty with lowLatency := test flags asyncLowLatency }
    rate := { p.rate with customBaudRate := custom } }

/-- The end of `mxser_set_serial_info`: the UART type is taken over, and the
rate follows a change of the `ASYNC_SPD` flags. -/
def applySerialInfo (HZ : Int) (p : Port) (type : Int) (oldSpd : Word) (page : Option Page)
    (lsr : Byte) (admin : Bool) : Except Fault (Option Errno × Port) :=
  let p := processTxrxFifo { p with type := type }
  if p.initialized then
    if oldSpd ≠ p.flags &&& asyncSpdMask then do
      let p ← mxserChangeSpeed HZ p
      return (none, p)
    else .ok (none, p)
  else .ok (mxserStartup p page lsr admin)

/-- `mxser_set_serial_info`; `page` and `lsr` are for the start-up of a port that
is not initialised. -/
def mxserSetSerialInfo (HZ : Int) (p : Port) (new : SerialStruct) (admin : Bool)
    (page : Option Page) (lsr : Byte) : Except Fault (Option Errno × Port) :=
  if p.base = 0 then .ok (some .efault, p)
  else if new.irq ≠ p.irq ∨ new.port ≠ p.base then .ok (some .eperm, p)
  else if admin then do
    let q ← adminSerialInfo HZ p new
    applySerialInfo HZ q new.type (p.flags &&& asyncSpdMask) page lsr admin
  else if new.baudBase ≠ p.rate.baudBase ∨ (new.closeDelay.toNat : Int) ≠ p.opens.closeDelay ∨
      new.flags &&& ~~~asyncUsrMask ≠ p.flags &&& ~~~asyncUsrMask then .ok (some .eperm, p)
  else applySerialInfo HZ (userSerialInfo p new) new.type (p.flags &&& asyncSpdMask) page lsr admin

/-- The request `TIOCSSERIAL`. -/
def tiocsserial (HZ : Int) (p : Port) (new : SerialStruct) (admin : Bool)
    (page : Option Page) (lsr : Byte) : Except Fault (Option Errno × Port) :=
  if p.tty.ioError then .ok (some .eio, p) else mxserSetSerialInfo HZ p new admin page lsr

/-! ## Case by case -/

/-- The calls that come back with an error before anything is changed. -/
def SerialInfoRefused (p : Port) (new : SerialStruct) (admin : Bool) : Prop :=
  p.base = 0 ∨ new.irq ≠ p.irq ∨ new.port ≠ p.base ∨
    (admin = false ∧ (new.baudBase ≠ p.rate.baudBase ∨
      (new.closeDelay.toNat : Int) ≠ p.opens.closeDelay ∨
      new.flags &&& ~~~asyncUsrMask ≠ p.flags &&& ~~~asyncUsrMask))

/-- A privileged call that makes the driver divide by `custom_divisor`. -/
def SerialInfoDivides (p : Port) (new : SerialStruct) (admin : Bool) : Prop :=
  admin = true ∧
    (new.baudBase ≠ p.rate.baudBase ∨ new.customDivisor ≠ p.rate.customDivisor)

instance (p : Port) (new : SerialStruct) (admin : Bool) :
    Decidable (SerialInfoRefused p new admin) :=
  inferInstanceAs (Decidable (_ ∨ _))

instance (p : Port) (new : SerialStruct) (admin : Bool) :
    Decidable (SerialInfoDivides p new admin) :=
  inferInstanceAs (Decidable (_ ∧ _))

/-- The port that `applySerialInfo` gets: flags, delays and `custom_baud_rate`
may be new, and the port is initialised if it was. -/
def SerialInfoSet (p q : Port) : Prop :=
  ∃ flags opens low custom, q = { p with
      flags := flags
      opens := opens
      tty := { p.tty with lowLatency := low }
      rate := { p.rate with customBaudRate := custom } } ∧
    test flags asyncInitialized = test p.flags asyncInitialized

/-- A word keeps a bit outside the mask of the bits that are replaced. -/
theorem test_replace {x y m k : Word} (h : m &&& k = 0) :
    test (x &&& ~~~m ||| y &&& m) k = test x k := by
  rw [test_or, test_clear_of_disjoint h, test_and_of_disjoint h, Bool.or_false]

theorem userSerialInfo_set (p : Port) (new : SerialStruct) :
    SerialInfoSet p (userSerialInfo p new) :=
  ⟨_, p.opens, p.tty.lowLatency, p.rate.customBaudRate, rfl, test_replace (by decide)⟩

theorem adminSerialInfo_fault {HZ : Int} {p : Port} {new : SerialStruct}
    (hdiv : SerialInfoDivides p new true) (hzero : new.customDivisor = 0) :
    adminSerialInfo HZ p new = .error .divideByZero := by
  rw [adminSerialInfo, if_pos hdiv.2, hzero, cdiv_zero]
  rfl

theorem adminSerialInfo_set {HZ : Int} {p : Port} {new : SerialStruct}
    (hdiv : SerialInfoDivides p new true → new.customDivisor ≠ 0) :
    ∃ q, SerialInfoSet p q ∧ adminSerialInfo HZ p new = .ok q := by
  simp only [adminSerialInfo]
  by_cases hchange : new.baudBase ≠ p.rate.baudBase ∨ new.customDivisor ≠ p.rate.customDivisor
  · rw [if_pos hchange, cdiv_of_ne _ (hdiv ⟨rfl, hchange⟩)]
    exact ⟨_, ⟨_, _, _, _, rfl, test_replace (by decide)⟩, rfl⟩
  · rw [if_neg hchange]
    exact ⟨_, ⟨_, _, _, _, rfl, test_replace (by decide)⟩, rfl⟩

/-- Everything `mxser_set_serial_info` can do before it applies the type. -/
theorem mxserSetSerialInfo_cases (HZ : Int) (p : Port) (new : SerialStruct) (admin : Bool)
    (page : Option Page) (lsr : Byte) :
    (SerialInfoRefused p new admin ∧
      ∃ e, mxserSetSerialInfo HZ p new admin page lsr = .ok (some e, p)) ∨
    (¬ SerialInfoRefused p new admin ∧ SerialInfoDivides p new admin ∧ new.customDivisor = 0 ∧
      mxserSetSerialInfo HZ p new admin page lsr = .error .divideByZero) ∨
    (¬ SerialInfoRefused p new admin ∧
      (SerialInfoDivides p new admin → new.customDivisor ≠ 0) ∧
      ∃ q, SerialInfoSet p q ∧ mxserSetSerialInfo HZ p new admin page lsr
        = applySerialInfo HZ q new.type (p.flags &&& asyncSpdMask) page lsr admin) := by
  simp only [mxserSetSerialInfo]
  by_cases hbase : p.base = 0
  · exact .inl ⟨.inl hbase, _, if_pos hbase⟩
  · rw [if_neg hbase]
    by_cases hport : new.irq ≠ p.irq ∨ new.port ≠ p.base
    · refine .inl ⟨?_, _, if_pos hport⟩
      rcases hport with hirq | hport
      · exact .inr (.inl hirq)
      · exact .inr (.inr (.inl hport))
    · rw [if_neg hport]
      obtain ⟨hirq, hio⟩ := not_or.mp hport
      cases admin with
      | true =>
          have hok : ¬ SerialInfoRefused p new true := by
            rintro (h | h | h | ⟨h, -⟩)
            · exact hbase h
            · exact hirq h
            · exact hio h
            · cases h
          -- the division is made only for a change
          by_cases hdiv : SerialInfoDivides p new true ∧ new.customDivisor = 0
          · refine .inr (.inl ⟨hok, hdiv.1, hdiv.2, ?_⟩)
            rw [if_pos rfl, adminSerialInfo_fault hdiv.1 hdiv.2]
            rfl
          · have hne : SerialInfoDivides p new true → new.customDivisor ≠ 0 :=
              fun h hzero => hdiv ⟨h, hzero⟩
            obtain ⟨q, hset, hq⟩ := adminSerialInfo_set hne
            refine .inr (.inr ⟨hok, hne, q, hset, ?_⟩)
            rw [if_pos rfl, hq]
            rfl
      | false =>
          rw [if_neg Bool.false_ne_true]
          by_cases huser : new.baudBase ≠ p.rate.baudBase ∨
              (new.closeDelay.toNat : Int) ≠ p.opens.closeDelay ∨
              new.flags &&& ~~~asyncUsrMask ≠ p.flags &&& ~~~asyncUsrMask
          · exact .inl ⟨.inr (.inr (.inr ⟨rfl, huser⟩)), _, if_pos huser⟩
          · refine .inr (.inr ⟨?_, fun h => absurd h.1 Bool.false_ne_true, _,
              userSerialInfo_set p new, if_neg huser⟩)
            rintro (h | h | h | ⟨-, h⟩)
            · exact hbase h
            · exact hirq h
            · exact hio h
            · exact huser h

/-- On an initialised port the type is applied and, at most, the speed changed. -/
theorem applySerialInfo_initialized (HZ : Int) {p : Port} (hp : p.initialized = true)
    (type : Int) (oldSpd : Word) (page : Option Page) (lsr : Byte) (admin : Bool) :
    ∃ q, applySerialInfo HZ p type oldSpd page lsr admin = .ok (none, q) ∧
      (q = processTxrxFifo { p with type := type } ∨
        mxserChangeSpeed HZ (processTxrxFifo { p with type := type }) = .ok q) := by
  simp only [applySerialInfo]
  rw [if_pos (show (processTxrxFifo { p with type := type }).initialized = true from hp)]
  split
  · obtain ⟨q, hq⟩ := mxserChangeSpeed_completes HZ (processTxrxFifo { p with type := type })
    exact ⟨q, by rw [hq]; rfl, .inr hq⟩
  · exact ⟨_, rfl, .inl rfl⟩

end MoxaDrivers.Mxser
