import Chip8.Proofs.Histories

/-!
# Memory as a host sees it

A host gives addresses as numbers of any size and sign. Every access checks its whole range first,
so one that is let through never meets the rules for addresses past the end, and one that is not
fails with the range that was asked for. What a host reads after a write is said for every number in
`State.Overwrites`. A program is a write at `0x200`, so nothing below is ever loaded over.
-/

namespace Chip8

namespace State

/-! ## Ranges -/

/-- So many addresses, from one on, lie in memory. -/
def InMemory (address : Int) (length : Nat) : Prop :=
  0 ≤ address ∧ address + length ≤ 4096

section Ranges

variable {state : State} {address : Int} {length : Nat} {data : List UInt8}

theorem checkRange_of_inMemory (inside : InMemory address length) :
    checkRange address length = .ok () :=
  if_neg fun outside => by
    obtain ⟨start, ends⟩ := inside
    omega

theorem checkRange_of_not_inMemory (outside : ¬ InMemory address length) :
    checkRange address length = .error (.machine (.outsideMemory address length)) :=
  if_pos <| Decidable.byContradiction fun inside => outside ⟨by omega, by omega⟩

theorem readByte_of_inMemory (state : State) (inside : InMemory address 1) :
    state.readByte address = .ok (state.memory.read address.toNat) := by
  rw [readByte, checkRange_of_inMemory inside]
  rfl

theorem readByte_of_not_inMemory (state : State) (outside : ¬ InMemory address 1) :
    state.readByte address = .error (.machine (.outsideMemory address 1)) := by
  rw [readByte, checkRange_of_not_inMemory outside]
  rfl

theorem writeBytes_of_inMemory (state : State) (inside : InMemory address data.length) :
    state.writeBytes address data =
      .ok { state with memory := state.memory.writeAll address.toNat data } := by
  rw [writeBytes, checkRange_of_inMemory inside]
  rfl

theorem writeBytes_of_not_inMemory (state : State) (outside : ¬ InMemory address data.length) :
    state.writeBytes address data =
      .error (.machine (.outsideMemory address data.length)) := by
  rw [writeBytes, checkRange_of_not_inMemory outside]
  rfl

end Ranges

/-! ## What is read after a write -/

/-- To a host, the second state is the first with bytes written over its memory from an address on,
and nothing else. -/
structure Overwrites (before after : State) (address : Int) (data : List UInt8) : Prop where
  memory : ∃ memory, after = { before with memory }
  written : ∀ (offset : Nat) (byte : UInt8), data[offset]? = some byte →
    after.readByte (address + offset) = .ok byte
  kept : ∀ other : Int, InMemory other 1 → other < address ∨ address + data.length ≤ other →
    ∃ byte, before.readByte other = .ok byte ∧ after.readByte other = .ok byte
  outside : ∀ other : Int, ¬ InMemory other 1 →
    after.readByte other = .error (.machine (.outsideMemory other 1))

theorem overwrites_writeAll (state : State) {address : Int} {data : List UInt8}
    (inside : InMemory address data.length) :
    state.Overwrites { state with memory := state.memory.writeAll address.toNat data }
      address data where
  memory := ⟨_, rfl⟩
  written offset byte there := by
    obtain ⟨start, ends⟩ := inside
    obtain ⟨below, -⟩ := List.getElem?_eq_some_iff.mp there
    have place : (address + offset).toNat = address.toNat + offset := by omega
    rw [readByte_of_inMemory _ ⟨by omega, by omega⟩, place]
    exact congrArg Except.ok (state.memory.read_writeAll_inside there (by omega))
  kept other present apart := by
    obtain ⟨start, -⟩ := inside
    obtain ⟨positive, below⟩ := present
    refine ⟨_, state.readByte_of_inMemory ⟨positive, below⟩, ?_⟩
    rw [readByte_of_inMemory _ ⟨positive, below⟩]
    exact congrArg Except.ok (state.memory.read_writeAll_outside (by omega) (by omega))
  outside other := readByte_of_not_inMemory _

/-- Writing one byte is writing a run of one. -/
theorem writeByte_eq_writeBytes (state : State) (address value : Int) :
    state.writeByte address value =
      state.writeBytes address [UInt8.ofNat (value % 256).toNat] :=
  rfl

/-! ## Programs -/

section Programs

variable {program : List UInt8}

theorem loadProgram_of_fits (state : State) (some : program ≠ [])
    (fits : program.length ≤ Layout.programCapacity) :
    state.loadProgram program = state.writeBytes Layout.programStart program := by
  rw [loadProgram, if_neg (by simpa using some), if_neg (by omega)]

theorem inMemory_of_fits (fits : program.length ≤ Layout.programCapacity) :
    InMemory Layout.programStart program.length := by
  simp only [Layout.programCapacity, Layout.memorySize, Layout.programStart] at fits ⊢
  exact ⟨by omega, by omega⟩

theorem loadProgram_of_misfit (state : State)
    (misfit : ¬ (program ≠ [] ∧ program.length ≤ Layout.programCapacity)) :
    ∃ error, state.loadProgram program = .error (.machine error) ∧ error.kind = .load := by
  unfold loadProgram
  split
  · exact ⟨_, rfl, rfl⟩
  · next some =>
    have large : Layout.programCapacity < program.length :=
      Nat.lt_of_not_le fun fits => misfit ⟨by simpa using some, fits⟩
    rw [if_pos large]
    exact ⟨_, rfl, rfl⟩

/-- A load that is asked for, granted or refused, leaves memory below programs alone. -/
theorem read_serve_loadProgram (state : State) (program : List UInt8) {address : Nat}
    (below : address < Layout.programStart) :
    (state.serve (.loadProgram program)).1.memory.read address = state.memory.read address := by
  simp only [Layout.programStart] at below
  by_cases fits : program ≠ [] ∧ program.length ≤ Layout.programCapacity
  · rw [serve, loadProgram_of_fits state fits.1 fits.2,
      writeBytes_of_inMemory state (inMemory_of_fits fits.2)]
    exact state.memory.read_writeAll_outside (by omega) (.inl below)
  · obtain ⟨error, refused, -⟩ := state.loadProgram_of_misfit fits
    rw [serve, refused]
    rfl

/-- No sequence of loads reaches below programs. -/
theorem read_after_loads (state : State) (programs : List (List UInt8)) {address : Nat}
    (below : address < Layout.programStart) :
    (state.after (programs.map .loadProgram)).memory.read address =
      state.memory.read address := by
  induction programs generalizing state with
  | nil => rfl
  | cons program rest ih =>
    exact (ih (state.serve (.loadProgram program)).1).trans
      (state.read_serve_loadProgram program below)

/-- A fresh state has the font in its place. -/
theorem read_fresh_font (random : Random.Pair) {place : Nat} {byte : UInt8}
    (listed : Layout.font[place]? = some byte) :
    (fresh random).memory.read (Layout.fontStart + place) = byte := by
  obtain ⟨below, -⟩ := List.getElem?_eq_some_iff.mp listed
  rw [Layout.length_font, Layout.glyphSize] at below
  exact Memory.zero.read_writeAll_inside listed (by rw [Layout.fontStart]; omega)

end Programs

/-! ## Every access -/

/-- **Host access is exact at its bounds.** A write goes through exactly if all its addresses lie in
memory, and then every number reads what it should: the byte that was written there, the byte from
before, or the error of an address outside. Writing a number writes its lowest eight bits. A program
is loaded exactly if it has one byte at least and 3584 at most, as a write at `0x200`. So no
sequence of loads reaches an address below, and the font stays where it is. -/
theorem host_memory_exact (state : State) (address : Int) (data : List UInt8) :
    (InMemory address data.length → ∃ changed, state.writeBytes address data = .ok changed ∧
      state.Overwrites changed address data) ∧
    (¬ InMemory address data.length → state.writeBytes address data =
      .error (.machine (.outsideMemory address data.length))) ∧
    (∀ value : Int, state.writeByte address value =
      state.writeBytes address [UInt8.ofNat (value % 256).toNat]) ∧
    (1 ≤ data.length ∧ data.length ≤ 3584 → ∃ loaded, state.loadProgram data = .ok loaded ∧
      state.writeBytes 0x200 data = .ok loaded) ∧
    (¬ (1 ≤ data.length ∧ data.length ≤ 3584) → ∃ error,
      state.loadProgram data = .error (.machine error) ∧ error.kind = .load) ∧
    ∀ programs : List (List UInt8),
      (∀ other : Int, 0 ≤ other → other < 0x200 →
        (state.after (programs.map .loadProgram)).readByte other = state.readByte other) ∧
      ∀ (random : Random.Pair) (place : Nat) (byte : UInt8), Layout.font[place]? = some byte →
        ((fresh random).after (programs.map .loadProgram)).readByte (0x50 + place) =
          .ok byte := by
  have some_iff : data ≠ [] ↔ 1 ≤ data.length := List.length_pos_iff.symm
  refine ⟨fun inside => ?_, state.writeBytes_of_not_inMemory,
    state.writeByte_eq_writeBytes address, fun fits => ?_, fun misfit => ?_,
    fun programs => ⟨fun other positive below => ?_, fun random place byte listed => ?_⟩⟩
  · exact ⟨_, state.writeBytes_of_inMemory inside, state.overwrites_writeAll inside⟩
  · have placed := state.writeBytes_of_inMemory (inMemory_of_fits fits.2)
    exact ⟨_, (state.loadProgram_of_fits (some_iff.mpr fits.1) fits.2).trans placed, placed⟩
  · exact state.loadProgram_of_misfit fun fits => misfit ⟨some_iff.mp fits.1, fits.2⟩
  · have inside : InMemory other 1 := ⟨positive, by omega⟩
    rw [readByte_of_inMemory _ inside, readByte_of_inMemory _ inside,
      state.read_after_loads programs (by rw [Layout.programStart]; omega)]
  · obtain ⟨inside, -⟩ := List.getElem?_eq_some_iff.mp listed
    rw [Layout.length_font, Layout.glyphSize] at inside
    have address : ((0x50 : Int) + place).toNat = Layout.fontStart + place := by
      rw [Layout.fontStart]
      omega
    rw [readByte_of_inMemory _ ⟨by omega, by omega⟩, address,
      read_after_loads _ programs (by rw [Layout.fontStart, Layout.programStart]; omega),
      read_fresh_font random listed]

/-- Two bytes are written to the last two addresses, and refused one address further on. A program
of two bytes is loaded and an empty one is not, and the first row of the digit zero is still
there. -/
theorem host_memory_exact_at_end :
    let state := fresh ⟨0, 0⟩
    let data : List UInt8 := [0xAB, 0xCD]
    (InMemory 0xFFE data.length ∧ ∃ changed, state.writeBytes 0xFFE data = .ok changed ∧
      changed.readByte 0xFFF = .ok 0xCD ∧ changed.readByte (-1) =
        .error (.machine (.outsideMemory (-1) 1))) ∧
    (¬ InMemory 0xFFF data.length ∧ state.writeBytes 0xFFF data =
      .error (.machine (.outsideMemory 0xFFF 2))) ∧
    (∃ loaded, state.loadProgram data = .ok loaded ∧ state.writeBytes 0x200 data = .ok loaded) ∧
    (∃ error, state.loadProgram [] = .error (.machine error) ∧ error.kind = .load) ∧
    (0xF0 ∈ Layout.font[0]? ∧
      (state.after ([data, []].map .loadProgram)).readByte 0x50 = .ok 0xF0) := by
  intro state data
  have inside : InMemory 0xFFE data.length := ⟨by decide, by decide⟩
  have outside : ¬ InMemory 0xFFF data.length := fun inside => absurd inside.2 (by decide)
  obtain ⟨writes, -, -, loads, -⟩ := host_memory_exact state 0xFFE data
  obtain ⟨-, refuses, -⟩ := host_memory_exact state 0xFFF data
  obtain ⟨-, -, -, -, misfits, -⟩ := host_memory_exact state 0 []
  obtain ⟨-, -, -, -, -, sequences⟩ := host_memory_exact state 0 data
  obtain ⟨changed, written, overwrites⟩ := writes inside
  refine ⟨⟨inside, changed, written, overwrites.written 1 0xCD rfl,
    overwrites.outside (-1) fun inside => absurd inside.1 (by decide)⟩,
    ⟨outside, refuses outside⟩, loads (by decide), misfits (by decide), rfl, ?_⟩
  exact (sequences [data, []]).2 ⟨0, 0⟩ 0 0xF0 rfl

end State

end Chip8
