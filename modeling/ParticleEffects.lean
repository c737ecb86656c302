import ParticleEffects.Proofs.AddedKeys
import ParticleEffects.Proofs.PositionText
import ParticleEffects.Proofs.CallOrder
import ParticleEffects.Proofs.Registration
import ParticleEffects.Proofs.ShaderSources
import ParticleEffects.Proofs.SlotHistory
import ParticleEffects.Proofs.Snapshots
import ParticleEffects.Workspace.Transcript
import ParticleEffects.Proofs.Rounding
import ParticleEffects.Proofs.DecimalText
import ParticleEffects.Proofs.NumberBits
import ParticleEffects.Proofs.FixedLiteral
import ParticleEffects.Proofs.LiteralReading
import ParticleEffects.Proofs.ShortestDigits
import ParticleEffects.Proofs.LargeLiteral
import ParticleEffects.Proofs.Isolation
import ParticleEffects.Proofs.NewAssets
import ParticleEffects.Proofs.HardSteps
import ParticleEffects.Proofs.SampledRange
import ParticleEffects.Proofs.FiniteSamples
import ParticleEffects.Proofs.FaithfulCopies
import ParticleEffects.Proofs.BufferDecoding
import ParticleEffects.Proofs.PackedModifiers
import ParticleEffects.Proofs.ActiveSources
import ParticleEffects.Proofs.EqualValues
import ParticleEffects.Proofs.LiteralGrammar
import ParticleEffects.Proofs.ShaderWords
import ParticleEffects.Proofs.StatementWords
import ParticleEffects.Proofs.BlockScope
import ParticleEffects.Proofs.PositionScope
import ParticleEffects.Proofs.Draws
import ParticleEffects.Proofs.TextReading
import ParticleEffects.Proofs.CircleGeometry
import ParticleEffects.Proofs.RotationSigns
