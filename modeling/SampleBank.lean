import SampleBank.Layout.Save
import SampleBank.Main
import SampleBank.Session
import SampleBank.Proofs.Router.Log
import SampleBank.Proofs.Router.Separate
import SampleBank.Proofs.Engine.Refusal
import SampleBank.Proofs.Engine.Contents
import SampleBank.Proofs.Engine.Effects
import SampleBank.Proofs.Engine.Sharing
import SampleBank.Proofs.Engine.Steps
import SampleBank.Proofs.Engine.History
import SampleBank.Proofs.Engine.Health
import SampleBank.Proofs.Synth.Atomicity
import SampleBank.Proofs.Synth.Changes
import SampleBank.Proofs.Synth.KeyMap
import SampleBank.Proofs.Synth.Lifecycle
import SampleBank.Proofs.Synth.Willing
import SampleBank.Proofs.Layout.Apply
import SampleBank.Proofs.Layout.Meaning
import SampleBank.Proofs.Session.Sharing
import SampleBank.Proofs.Session.Mirror
import SampleBank.Proofs.Session.Ownership
import SampleBank.Proofs.Session.KeyMap
import SampleBank.Proofs.Session.Bindings
import SampleBank.Proofs.Session.Closing
import SampleBank.Proofs.Session.OneSynth
import SampleBank.Proofs.Router.AnyOrder
import SampleBank.Proofs.Layout.DryRun
import SampleBank.Proofs.Audio.Bytes
import SampleBank.Proofs.Audio.Pcm
import SampleBank.Proofs.Layout.RoundTrip
import SampleBank.Proofs.Engine.Deletion
import SampleBank.Proofs.Session.Served
import SampleBank.Proofs.Session.Releasing
import SampleBank.Proofs.Layout.Stopping
import SampleBank.Proofs.Session.Agreeing
import SampleBank.Proofs.Layout.Filling
import SampleBank.Proofs.CommandLine.Report
import SampleBank.Proofs.Session.Overlay
import SampleBank.Proofs.Audio.Frames
import SampleBank.Proofs.Audio.Recording
import SampleBank.Proofs.FilePath
