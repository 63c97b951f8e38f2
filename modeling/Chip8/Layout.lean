/-!
# Sizes and addresses of the machine

The fixed numbers of a CHIP-8 machine: how large each store is, where programs and the built-in
font live, and how often the host refreshes it.
-/

namespace Chip8.Layout

/-- Bytes of memory. -/
def memorySize : Nat := 4096

/-- Where a program is placed and where execution begins. -/
def programStart : Nat := 0x200

/-- The longest program that fits above `programStart`. -/
def programCapacity : Nat := memorySize - programStart

def screenWidth : Nat := 64

def screenHeight : Nat := 32

def registerCount : Nat := 16

def keyCount : Nat := 16

def stackDepth : Nat := 16

/-- The register that holds carries, borrows and sprite collisions. -/
def flagRegister : Fin 16 := 15

/-- Timer ticks, and frames, per second. -/
def timerFrequency : Nat := 60

/-- Cycles that a window runs between two frames. -/
def cyclesPerFrame : Nat := 10

/-- Where the hexadecimal digit sprites are stored. -/
def fontStart : Nat := 0x50

/-- Bytes of one digit sprite. -/
def glyphSize : Nat := 5

/-- Sprites of the digits `0` to `F`, one byte a row. -/
def font : List UInt8 := [
  0xF0, 0x90, 0x90, 0x90, 0xF0,
  0x20, 0x60, 0x20, 0x20, 0x70,
  0xF0, 0x10, 0xF0, 0x80, 0xF0,
  0xF0, 0x10, 0xF0, 0x10, 0xF0,
  0x90, 0x90, 0xF0, 0x10, 0x10,
  0xF0, 0x80, 0xF0, 0x10, 0xF0,
  0xF0, 0x80, 0xF0, 0x90, 0xF0,
  0xF0, 0x10, 0x20, 0x40, 0x40,
  0xF0, 0x90, 0xF0, 0x90, 0xF0,
  0xF0, 0x90, 0xF0, 0x10, 0xF0,
  0xF0, 0x90, 0xF0, 0x90, 0x90,
  0xE0, 0x90, 0xE0, 0x90, 0xE0,
  0xF0, 0x80, 0x80, 0x80, 0xF0,
  0xE0, 0x90, 0x90, 0x90, 0xE0,
  0xF0, 0x80, 0xF0, 0x80, 0xF0,
  0xF0, 0x80, 0xF0, 0x80, 0x80]

theorem length_font : font.length = 16 * glyphSize := rfl

end Chip8.Layout
