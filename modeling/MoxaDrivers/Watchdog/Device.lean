import MoxaDrivers.Lib.Bits
import MoxaDrivers.Superio.Chip

/-!
# The watchdog driver

`moxa_v2100_wdt` drives the watchdog timer of the super I/O chip. A value other
than 0 written to `IT8783F_WDT_WTV_0_7` starts the counter from it, whether it
was running or not, and 0 stops it: `moxawdt_enable`, `moxawdt_ack` and
`moxawdt_disable` differ in the value that they write.

`Wdt.call` is one call into the driver; `Wdt.effect` says beforehand what it
does to the counter.
-/

namespace MoxaDrivers.Watchdog

open MoxaDrivers.Superio MoxaDrivers.Bits

abbrev Word := BitVec 32

def watchdogMinor : Nat := 130
def watchdogMinTime : Int := 2
def watchdogMaxTime : Int := 255

def it8783fWdtConf : Byte := 0x72
def it8783fWdtWtv07 : Byte := 0x73

def it8783fWtvs : Byte := 0x80
def it8783fWoke : Byte := 0x40
def it8783fWtves : Byte := 0x20
def it8783fWope : Byte := 0x10

inductive Errno where
  | ebusy
  | efault
  | einval
  | enodev
  | enotty
  deriving DecidableEq, Repr

/-- The driver, its module parameters and the chip. -/
structure Wdt where
  /-- `WDT_IN_USE` of `wdt_status`. -/
  inUse : Bool
  /-- `WDT_OK_TO_CLOSE` of `wdt_status`. -/
  okToClose : Bool
  timeout : Word
  nowayout : Word
  chip : Chip
  /-- The values that the present call has written to the counter register, the
  last one first. -/
  written : List Byte

/-- The counter register. -/
def Wdt.counter (w : Wdt) : Byte := w.chip.reg gpioConfigReg it8783fWdtWtv07

/-- `(u8) timeout`. -/
def Wdt.low (w : Wdt) : Byte := w.timeout.setWidth 8

def Wdt.setCounter (w : Wdt) (val : Byte) : Wdt :=
  { w with
    chip := superioWrite w.chip logicDeviceNumber it8783fWdtWtv07 gpioConfigReg val
    written := val :: w.written }

def moxawdtAck (w : Wdt) : Wdt := w.setCounter w.low

def moxawdtEnable (w : Wdt) : Wdt :=
  let (regVal, chip) := superioRead w.chip logicDeviceNumber it8783fWdtConf gpioConfigReg
  let regVal := regVal &&& ~~~it8783fWtves
  let chip := superioWrite chip logicDeviceNumber it8783fWdtConf gpioConfigReg
    (regVal ||| it8783fWoke ||| it8783fWtvs ||| it8783fWope)
  { w with chip := chip }.setCounter w.low

def moxawdtDisable (w : Wdt) : Wdt := w.setCounter 0

/-! ## The file operations -/

/-- `moxawdt_open` comes to `moxawdt_enable`. -/
def Wdt.admits (w : Wdt) (minor : Nat) : Bool := minor == watchdogMinor && !w.inUse

def moxawdtOpen (w : Wdt) (minor : Nat) : Wdt × Except Errno Unit :=
  if minor ≠ watchdogMinor then (w, .error .enodev)
  else if w.inUse then (w, .error .ebusy)
  else (moxawdtEnable { w with inUse := true, okToClose := false }, .ok ())

def moxawdtRelease (w : Wdt) : Wdt :=
  let w := if w.okToClose then moxawdtDisable w else w
  { w with inUse := false, okToClose := false }

/-- The loop of `moxawdt_write`, over what `get_user` returns for each byte. -/
def writeLoop (w : Wdt) : List (Option Byte) → Wdt × Except Errno Unit
  | [] => (w, .ok ())
  | none :: _ => (w, .error .efault)
  | some c :: buf => writeLoop (if c = 'V'.toNat then { w with okToClose := true } else w) buf

def moxawdtWrite (w : Wdt) (buf : List (Option Byte)) : Wdt × Except Errno Nat :=
  if buf.length ≠ 0 then
    if w.nowayout = 0 then
      match writeLoop { w with okToClose := false } buf with
      | (w, .error e) => (w, .error e)
      | (w, .ok ()) => (moxawdtAck w, .ok buf.length)
    else (moxawdtAck w, .ok buf.length)
  else (w, .ok buf.length)

/-! ## `moxawdt_ioctl` -/

/-- `_IOC(dir, type, nr, size)`. -/
def ioc (dir type nr size : Nat) : Word :=
  BitVec.ofNat 32 (dir <<< 30 ||| size <<< 16 ||| type <<< 8 ||| nr)

def watchdogIoctlBase : Nat := 'W'.toNat

def wdiocGetsupport : Word := ioc 2 watchdogIoctlBase 0 40
def wdiocGetstatus : Word := ioc 2 watchdogIoctlBase 1 4
def wdiocGetbootstatus : Word := ioc 2 watchdogIoctlBase 2 4
def wdiocSetoptions : Word := ioc 2 watchdogIoctlBase 4 4
def wdiocKeepalive : Word := ioc 2 watchdogIoctlBase 5 4
def wdiocSettimeout : Word := ioc 3 watchdogIoctlBase 6 4
def wdiocGettimeout : Word := ioc 2 watchdogIoctlBase 7 4

def wdiosDisablecard : Word := 0x0001
def wdiosEnablecard : Word := 0x0002

def wdiofSettimeout : Word := 0x0080
def wdiofMagicclose : Word := 0x0100
def wdiofKeepaliveping : Word := 0x8000

structure WatchdogInfo where
  options : Word
  identity : String
  deriving DecidableEq, Repr

def ident : WatchdogInfo :=
  ⟨wdiofMagicclose ||| wdiofSettimeout ||| wdiofKeepaliveping, "Moxa V2100 based Watchdog"⟩

/-- The memory at `arg`: the word that `get_user` reads, and whether it can be
written. -/
structure UserArg where
  value : Option Word
  writable : Bool
  deriving DecidableEq, Repr

/-- What a call leaves in the memory of its caller. -/
inductive Answer where
  | nothing
  | word (v : Word)
  | info (i : WatchdogInfo)
  deriving DecidableEq, Repr

def putUser (arg : UserArg) (a : Answer) : Except Errno Answer :=
  if arg.writable then .ok a else .error .efault

def setoptions (w : Wdt) (newOptions : Word) : Wdt × Except Errno Answer :=
  let off := test newOptions wdiosDisablecard
  let on := test newOptions wdiosEnablecard
  let w := if off then moxawdtDisable w else w
  let w := if on then moxawdtEnable w else w
  (w, if off || on then .ok .nothing else .error .enotty)

/-- `moxawdt_ioctl` refuses the timeout. -/
def badTime (time : Word) : Bool :=
  decide (time.toInt ≤ watchdogMinTime) || decide (time.toInt > watchdogMaxTime)

def gettimeout (w : Wdt) (arg : UserArg) : Wdt × Except Errno Answer :=
  (w, putUser arg (.word w.timeout))

def settimeout (w : Wdt) (arg : UserArg) (time : Word) : Wdt × Except Errno Answer :=
  if badTime time then (w, .error .einval)
  else gettimeout (moxawdtAck { w with timeout := time }) arg

/-- The cases of the switch over `ioc_cmd`. -/
inductive Command where
  | getsupport
  | getstatus
  | getbootstatus
  | setoptions
  | keepalive
  | settimeout
  | gettimeout
  | unknown
  deriving DecidableEq, Repr

def command (cmd : Word) : Command :=
  if cmd = wdiocGetsupport then .getsupport
  else if cmd = wdiocGetstatus then .getstatus
  else if cmd = wdiocGetbootstatus then .getbootstatus
  else if cmd = wdiocSetoptions then .setoptions
  else if cmd = wdiocKeepalive then .keepalive
  else if cmd = wdiocSettimeout then .settimeout
  else if cmd = wdiocGettimeout then .gettimeout
  else .unknown

def moxawdtIoctl (w : Wdt) (cmd : Word) (arg : UserArg) : Wdt × Except Errno Answer :=
  match command cmd, arg.value with
  | .getsupport, _ => (w, putUser arg (.info ident))
  | .getstatus, _ => (w, putUser arg (.word 1))
  | .getbootstatus, _ => (w, putUser arg (.word 0))
  | .setoptions, some newOptions => setoptions w newOptions
  | .setoptions, none => (w, .error .efault)
  | .keepalive, _ => (moxawdtAck w, .ok .nothing)
  | .settimeout, some time => settimeout w arg time
  | .settimeout, none => (w, .error .efault)
  | .gettimeout, _ => gettimeout w arg
  | .unknown, _ => (w, .error .enotty)

/-! ## The reboot notifier -/

def sysDown : Nat := 1
def sysHalt : Nat := 2

/-- The codes at which `wdt_notify_sys` turns the card off. -/
def stopsAt (code : Nat) : Bool := code == sysDown || code == sysHalt

def wdtNotifySys (w : Wdt) (code : Nat) : Wdt :=
  if stopsAt code then moxawdtDisable w else w

/-! ## One call -/

inductive WdtOp where
  | open (minor : Nat)
  | write (buf : List (Option Byte))
  | ioctl (cmd : Word) (arg : UserArg)
  | release
  | notify (code : Nat)
  deriving DecidableEq, Repr

/-- The driver after a call. -/
def Wdt.call (w : Wdt) (op : WdtOp) : Wdt :=
  let w := { w with written := [] }
  match op with
  | .open minor => (moxawdtOpen w minor).1
  | .write buf => (moxawdtWrite w buf).1
  | .ioctl cmd arg => (moxawdtIoctl w cmd arg).1
  | .release => moxawdtRelease w
  | .notify code => wdtNotifySys w code

/-- The driver as `moxawdt_init` leaves it. -/
def loaded (timeout nowayout : Word) (chip : Chip) : Wdt :=
  ⟨false, false, timeout, nowayout, chip, []⟩

/-! ## What a call does to the counter -/

/-- The writes of the counter register in a call. -/
inductive Effect where
  | quiet
  /-- The timeout. -/
  | arm
  /-- 0. -/
  | stop
  /-- 0, then the timeout. -/
  | restart
  deriving DecidableEq, Repr

def Effect.values (low : Byte) : Effect → List Byte
  | .quiet => []
  | .arm => [low]
  | .stop => [0]
  | .restart => [low, 0]

def optionsEffect (newOptions : Word) : Effect :=
  match test newOptions wdiosDisablecard, test newOptions wdiosEnablecard with
  | false, false => .quiet
  | false, true => .arm
  | true, false => .stop
  | true, true => .restart

/-- `moxawdt_write` comes to `moxawdt_ack`. -/
def Wdt.acks (w : Wdt) (buf : List (Option Byte)) : Bool :=
  !buf.isEmpty && (w.nowayout != 0 || buf.all Option.isSome)

/-- The timeout that a call sets. -/
def WdtOp.newTimeout : WdtOp → Option Word
  | .ioctl cmd arg =>
      match command cmd with
      | .settimeout => arg.value.filter (!badTime ·)
      | _ => none
  | _ => none

/-- What `WDIOC_SETOPTIONS` is given. -/
def WdtOp.newOptions : WdtOp → Option Word
  | .ioctl cmd arg =>
      match command cmd with
      | .setoptions => arg.value
      | _ => none
  | _ => none

def WdtOp.keepalive : WdtOp → Bool
  | .ioctl cmd _ => command cmd == .keepalive
  | _ => false

def Wdt.effect (w : Wdt) : WdtOp → Effect
  | .open minor => if w.admits minor then .arm else .quiet
  | .write buf => if w.acks buf then .arm else .quiet
  | .ioctl cmd arg =>
      match (WdtOp.ioctl cmd arg).newOptions with
      | some newOptions => optionsEffect newOptions
      | none =>
          if (WdtOp.ioctl cmd arg).keepalive || (WdtOp.ioctl cmd arg).newTimeout.isSome then .arm
          else .quiet
  | .release => if w.okToClose then .stop else .quiet
  | .notify code => if stopsAt code then .stop else .quiet

/-- What a call does, but for the two flags. -/
structure Called (w : Wdt) (op : WdtOp) (t : Wdt) : Prop where
  written : t.written = (w.effect op).values t.low
  counter : t.counter = t.written.headD w.counter
  timeout : t.timeout = op.newTimeout.getD w.timeout
  nowayout : t.nowayout = w.nowayout

@[simp] theorem setCounter_counter (w : Wdt) (val : Byte) : (w.setCounter val).counter = val := by
  have hi : it8783fWdtWtv07 ≠ logicDeviceNumber := by decide
  exact superioWrite_self w.chip hi gpioConfigReg val

@[simp] theorem moxawdtEnable_counter (w : Wdt) : (moxawdtEnable w).counter = w.low :=
  setCounter_counter _ w.low

theorem called_open (w : Wdt) (minor : Nat) : Called w (.open minor) (w.call (.open minor)) := by
  simp only [Wdt.call, moxawdtOpen]
  split
  · rename_i hminor
    have heffect : w.effect (.open minor) = .quiet := by simp [Wdt.effect, Wdt.admits, hminor]
    exact ⟨by rw [heffect]; rfl, rfl, rfl, rfl⟩
  · rename_i hminor
    split
    · rename_i huse
      have heffect : w.effect (.open minor) = .quiet := by simp [Wdt.effect, Wdt.admits, huse]
      exact ⟨by rw [heffect]; rfl, rfl, rfl, rfl⟩
    · rename_i huse
      have heffect : w.effect (.open minor) = .arm := by
        simp [Wdt.effect, Wdt.admits, huse, not_not.mp hminor]
      exact ⟨by rw [heffect]; rfl, moxawdtEnable_counter _, rfl, rfl⟩

/-- The loop changes no more than `WDT_OK_TO_CLOSE`, and comes to its end if
every byte can be read. -/
theorem writeLoop_spec (buf : List (Option Byte)) : ∀ w : Wdt,
    (∃ b, (writeLoop w buf).1 = { w with okToClose := b }) ∧
      ((writeLoop w buf).2 = .ok () ↔ buf.all Option.isSome = true) := by
  induction buf with
  | nil =>
      intro w
      exact ⟨⟨w.okToClose, rfl⟩, by simp [writeLoop]⟩
  | cons c buf ih =>
      intro w
      cases c with
      | none => exact ⟨⟨w.okToClose, rfl⟩, by simp [writeLoop]⟩
      | some c =>
          obtain ⟨⟨b, hb⟩, hok⟩ := ih (if c = 'V'.toNat then { w with okToClose := true } else w)
          refine ⟨⟨b, ?_⟩, ?_⟩
          · rw [writeLoop, hb]
            split
            · rfl
            · rfl
          · simpa [writeLoop] using hok

theorem called_write (w : Wdt) (buf : List (Option Byte)) :
    Called w (.write buf) (w.call (.write buf)) := by
  have hquiet (h : w.acks buf = false) {b : Bool} :
      Called w (.write buf) { w with okToClose := b, written := [] } := by
    have heffect : w.effect (.write buf) = .quiet := by simp [Wdt.effect, h]
    exact ⟨by rw [heffect]; rfl, rfl, rfl, rfl⟩
  have harm (h : w.acks buf = true) {b : Bool} :
      Called w (.write buf) (moxawdtAck { w with okToClose := b, written := [] }) := by
    have heffect : w.effect (.write buf) = .arm := by simp [Wdt.effect, h]
    exact ⟨by rw [heffect]; rfl, setCounter_counter _ _, rfl, rfl⟩
  simp only [Wdt.call, moxawdtWrite]
  split
  · rename_i hlen
    split
    · rename_i hno
      obtain ⟨⟨b, hb⟩, hok⟩ := writeLoop_spec buf { w with okToClose := false, written := [] }
      generalize writeLoop { w with okToClose := false, written := [] } buf = r at hb hok
      obtain ⟨t, res⟩ := r
      cases hb
      cases res with
      | error e =>
          apply hquiet
          have hall : ¬ buf.all Option.isSome = true := fun h => nomatch hok.mpr h
          simp [Wdt.acks, hno, hall]
      | ok u =>
          apply harm
          have hall := hok.mp rfl
          simp only [Wdt.acks, hall]
          cases buf with
          | nil => exact absurd rfl hlen
          | cons c buf => simp
    · rename_i hno
      apply harm
      have hne : (w.nowayout != 0) = true := bne_iff_ne.mpr hno
      cases buf with
      | nil => exact absurd rfl hlen
      | cons c buf =>
          simp only [Wdt.acks, hne]
          rfl
  · rename_i hlen
    apply hquiet
    have hnil : buf = [] := by simpa using hlen
    simp [Wdt.acks, hnil]

theorem called_setoptions (w : Wdt) (newOptions : Word) {t : Wdt}
    (ht : t = (setoptions { w with written := [] } newOptions).1) :
    t.written = (optionsEffect newOptions).values w.low ∧
      t.counter = t.written.headD w.counter ∧ t.timeout = w.timeout ∧ t.nowayout = w.nowayout := by
  subst ht
  simp only [setoptions, optionsEffect]
  cases test newOptions wdiosDisablecard with
  | false =>
      cases test newOptions wdiosEnablecard with
      | false => exact ⟨rfl, rfl, rfl, rfl⟩
      | true => exact ⟨rfl, moxawdtEnable_counter _, rfl, rfl⟩
  | true =>
      cases test newOptions wdiosEnablecard with
      | false => exact ⟨rfl, setCounter_counter _ _, rfl, rfl⟩
      | true => exact ⟨rfl, moxawdtEnable_counter _, rfl, rfl⟩

theorem called_ioctl (w : Wdt) (cmd : Word) (arg : UserArg) :
    Called w (.ioctl cmd arg) (w.call (.ioctl cmd arg)) := by
  have hquiet (ho : (WdtOp.ioctl cmd arg).newOptions = none)
      (hk : (WdtOp.ioctl cmd arg).keepalive = false)
      (ht : (WdtOp.ioctl cmd arg).newTimeout = none) :
      Called w (.ioctl cmd arg) { w with written := [] } := by
    have heffect : w.effect (.ioctl cmd arg) = .quiet := by simp [Wdt.effect, ho, hk, ht]
    exact ⟨by rw [heffect]; rfl, rfl, by rw [ht]; rfl, rfl⟩
  simp only [Wdt.call, moxawdtIoctl]
  split
  · rename_i hcmd
    apply hquiet <;> simp [WdtOp.newOptions, WdtOp.keepalive, WdtOp.newTimeout, hcmd]
  · rename_i hcmd
    apply hquiet <;> simp [WdtOp.newOptions, WdtOp.keepalive, WdtOp.newTimeout, hcmd]
  · rename_i hcmd
    apply hquiet <;> simp [WdtOp.newOptions, WdtOp.keepalive, WdtOp.newTimeout, hcmd]
  · rename_i newOptions hcmd harg
    obtain ⟨hwritten, hcounter, htime, hno⟩ := called_setoptions w newOptions rfl
    refine ⟨?_, hcounter, ?_, hno⟩
    · simp only [Wdt.effect, WdtOp.newOptions, hcmd, harg]
      rw [hwritten, Wdt.low, Wdt.low, htime]
    · simp only [WdtOp.newTimeout, hcmd]
      exact htime
  · rename_i hcmd harg
    apply hquiet <;> simp [WdtOp.newOptions, WdtOp.keepalive, WdtOp.newTimeout, hcmd, harg]
  · rename_i hcmd
    refine ⟨?_, setCounter_counter _ _, ?_, rfl⟩
    · simp only [Wdt.effect, WdtOp.newOptions, WdtOp.keepalive, hcmd]
      rfl
    · simp only [WdtOp.newTimeout, hcmd]
      rfl
  · rename_i time hcmd harg
    simp only [settimeout]
    split
    · rename_i hbad
      apply hquiet <;>
        simp [WdtOp.newOptions, WdtOp.keepalive, WdtOp.newTimeout, hcmd, harg, hbad]
    · rename_i hgood
      have hnew : (WdtOp.ioctl cmd arg).newTimeout = some time := by
        simp [WdtOp.newTimeout, hcmd, harg, hgood]
      refine ⟨?_, setCounter_counter _ _, by rw [hnew]; rfl, rfl⟩
      have heffect : w.effect (.ioctl cmd arg) = .arm := by
        simp [Wdt.effect, hnew, WdtOp.newOptions, hcmd]
      rw [heffect]
      rfl
  · rename_i hcmd harg
    apply hquiet <;> simp [WdtOp.newOptions, WdtOp.keepalive, WdtOp.newTimeout, hcmd, harg]
  · rename_i hcmd
    apply hquiet <;> simp [WdtOp.newOptions, WdtOp.keepalive, WdtOp.newTimeout, hcmd]
  · rename_i hcmd
    apply hquiet <;> simp [WdtOp.newOptions, WdtOp.keepalive, WdtOp.newTimeout, hcmd]

theorem called_release (w : Wdt) : Called w .release (w.call .release) := by
  simp only [Wdt.call, moxawdtRelease]
  split
  · rename_i hok
    have hok : w.okToClose = true := hok
    exact ⟨by simp only [Wdt.effect, hok]; rfl, setCounter_counter _ _, rfl, rfl⟩
  · rename_i hok
    have hok : w.okToClose = false := eq_false_of_ne_true hok
    exact ⟨by simp only [Wdt.effect, hok]; rfl, rfl, rfl, rfl⟩

theorem called_notify (w : Wdt) (code : Nat) : Called w (.notify code) (w.call (.notify code)) := by
  simp only [Wdt.call, wdtNotifySys]
  split
  · rename_i hcode
    exact ⟨by simp only [Wdt.effect, hcode]; rfl, setCounter_counter _ _, rfl, rfl⟩
  · rename_i hcode
    have hcode : stopsAt code = false := eq_false_of_ne_true hcode
    exact ⟨by simp only [Wdt.effect, hcode]; rfl, rfl, rfl, rfl⟩

/-- The two flags after the calls that do not touch them. -/
theorem ioctl_flags (w : Wdt) (cmd : Word) (arg : UserArg) :
    (w.call (.ioctl cmd arg)).inUse = w.inUse ∧
      (w.call (.ioctl cmd arg)).okToClose = w.okToClose := by
  simp only [Wdt.call, moxawdtIoctl]
  split
  case h_4 newOptions _ _ =>
    simp only [setoptions]
    cases test newOptions wdiosDisablecard with
    | false => cases test newOptions wdiosEnablecard <;> exact ⟨rfl, rfl⟩
    | true => cases test newOptions wdiosEnablecard <;> exact ⟨rfl, rfl⟩
  case h_7 time _ _ =>
    simp only [settimeout]
    split
    · exact ⟨rfl, rfl⟩
    · exact ⟨rfl, rfl⟩
  all_goals exact ⟨rfl, rfl⟩

theorem notify_flags (w : Wdt) (code : Nat) :
    (w.call (.notify code)).inUse = w.inUse ∧
      (w.call (.notify code)).okToClose = w.okToClose := by
  simp only [Wdt.call, wdtNotifySys]
  split
  · exact ⟨rfl, rfl⟩
  · exact ⟨rfl, rfl⟩

theorem called (w : Wdt) (op : WdtOp) : Called w op (w.call op) := by
  cases op with
  | «open» minor => exact called_open w minor
  | write buf => exact called_write w buf
  | ioctl cmd arg => exact called_ioctl w cmd arg
  | release => exact called_release w
  | notify code => exact called_notify w code

end MoxaDrivers.Watchdog
