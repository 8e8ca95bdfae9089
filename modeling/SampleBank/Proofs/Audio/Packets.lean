import Mathlib.Algebra.Group.Nat.Defs
import SampleBank.Audio.Decode
import SampleBank.Proofs.Audio.Bytes

/-!
# Packets

Of all that a container can answer, the containers here only give packets of their one track, and
no packet is damaged. So the loop over their answers comes to its end, and what it has collected by
then is the samples of all packets, one after the other (`collect_packets`). That settles when a
container is decoded and to what (`Container.decode_eq`).

A packet is cut into samples by itself. As it consists of whole frames, the groups of the packets
are those of the data (`Track.flatMap_packetSamples`), and a packet that is cut off within a frame
still gives whole frames only (`Track.dvd_length_packetSamples`).
-/

namespace SampleBank

open Bytes

/-- All samples of a container with a track. -/
def Container.samples (c : Container) (track : Track) : List Int16 :=
  (packets c.blockSize (c.bytes.length + 1) (c.dataLength / c.blockSize) c.bytes).flatMap
    track.packetSamples

/-! ### The loop -/

/-- A packet of the track adds its samples at the end, and the number of channels is the track's
from then on. -/
theorem collect_packet (track : Track) (number channels : Nat) (data : List Int16)
    (packet : List UInt8) (later : List PacketAnswer) :
    collect number track.decodePacket channels data (.packet number packet :: later) =
      collect number track.decodePacket track.channels (data ++ track.packetSamples packet)
        later := by
  rw [collect, if_neg (Decidable.not_not.2 rfl)]
  rfl

/-- Packets of the track are all collected, in their order. -/
theorem collect_packets (track : Track) (number : Nat) (data : List Int16)
    (packets : List (List UInt8)) :
    collect number track.decodePacket track.channels data (packets.map (.packet number)) =
      .ok (track.channels, data ++ packets.flatMap track.packetSamples) := by
  induction packets generalizing data with
  | nil =>
    rw [List.flatMap_nil, List.append_nil]
    rfl
  | cons packet later ih =>
    rw [List.map_cons, collect_packet, ih, List.flatMap_cons, List.append_assoc]

/-- A container is decoded if it has a track with a channel and its blocks have a size, and then to
the samples of all its packets. -/
theorem Container.decode_eq (c : Container) :
    c.decode = match c.track with
      | none => .error .noAudioTrack
      | some track =>
        if c.blockSize = 0 then .error (.container (.malformed .emptyBlock))
        else if track.channels = 0 then .error .noAudioTrack
        else .ok ⟨UInt16.ofNat track.channels, UInt32.ofNat c.sampleRate, c.samples track⟩ := by
  cases found : c.track with
  | none => rw [decode, found]
  | some track =>
    rw [decode, found]
    by_cases empty : c.blockSize = 0
    · simp only [answers, if_pos empty]
      rfl
    · simp only [answers, if_neg empty, collect_packets, List.nil_append]
      rfl

/-! ### Samples of packets -/

namespace Track

variable {track : Track} {frame : Nat}

/-- A packet gives whole frames, even if it is cut off within one. -/
theorem dvd_length_packetSamples (track : Track) (packet : List UInt8) :
    track.channels ∣ (track.packetSamples packet).length := by
  rw [packetSamples, List.length_map, length_groups]
  exact Nat.dvd_mul_left ..

/-- The samples of a packet are those at the front of the data. -/
theorem packetSamples_take (frame_eq : track.channels * track.coding.size = frame)
    (frame_pos : 0 < frame) {count : Nat} (count_le : count ≤ packetBlocks) {bytes : List UInt8}
    (enough : count * frame ≤ bytes.length) :
    track.packetSamples (bytes.take (count * frame)) =
      (groups track.coding.size (count * track.channels) bytes).map track.coding.decode := by
  have covered : count * track.channels * track.coding.size ≤ count * frame :=
    Nat.le_of_eq (by rw [Nat.mul_assoc, frame_eq])
  rw [packetSamples, List.length_take_of_le enough, frame_eq, Nat.mul_div_cancel _ frame_pos,
    Nat.min_eq_right count_le, groups_take covered]

/-- Cut packet by packet, data give the same samples as cut at once. -/
theorem flatMap_packetSamples (frame_eq : track.channels * track.coding.size = frame)
    (frame_pos : 0 < frame) {fuel blocks : Nat} {bytes : List UInt8}
    (enough : blocks * frame ≤ bytes.length) (fuel_le : blocks ≤ fuel) :
    (packets frame fuel blocks bytes).flatMap track.packetSamples =
      (groups track.coding.size (blocks * track.channels) bytes).map track.coding.decode := by
  induction fuel generalizing blocks bytes with
  | zero =>
    rw [Nat.le_zero.1 fuel_le, Nat.zero_mul]
    rfl
  | succ fuel ih =>
    have limit_pos : 0 < packetBlocks := by decide
    by_cases done : blocks = 0
    · rw [packets, if_pos (.inl done), done, Nat.zero_mul]
      rfl
    have not_empty : bytes ≠ [] := by
      rintro rfl
      exact done ((Nat.mul_eq_zero.1 (Nat.le_zero.1 enough)).resolve_right (Nat.ne_of_gt frame_pos))
    rw [packets, if_neg (not_or.2 ⟨done, not_empty⟩)]
    -- `count` blocks are in this packet, and `rest` blocks in later ones
    obtain ⟨count, rest, rfl, count_eq, count_le, count_pos⟩ :
        ∃ count rest, blocks = count + rest ∧ min blocks packetBlocks = count ∧
          count ≤ packetBlocks ∧ 0 < count :=
      ⟨min blocks packetBlocks, blocks - min blocks packetBlocks, by omega, rfl, by omega,
        by omega⟩
    rw [Nat.add_mul] at enough
    have enough_here : count * frame ≤ bytes.length := by omega
    have enough_behind : rest * frame ≤ (bytes.drop (count * frame)).length := by
      rw [List.length_drop]
      omega
    simp only [count_eq]
    rw [Nat.add_sub_cancel_left, List.flatMap_cons,
      packetSamples_take frame_eq frame_pos count_le enough_here, ih enough_behind (by omega),
      Nat.add_mul, groups_add, List.map_append, Nat.mul_assoc, frame_eq]

end Track

/-- However many packets there are, their samples make whole frames. -/
theorem Container.dvd_length_samples (c : Container) (track : Track) :
    track.channels ∣ (c.samples track).length := by
  rw [samples]
  generalize packets c.blockSize _ _ _ = l
  induction l with
  | nil => exact Nat.dvd_zero _
  | cons packet later ih =>
    rw [List.flatMap_cons, List.length_append]
    exact Nat.dvd_add (track.dvd_length_packetSamples packet) ih

end SampleBank
